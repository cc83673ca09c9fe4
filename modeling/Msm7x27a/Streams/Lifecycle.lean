import Msm7x27a.Lib.Runs
import Msm7x27a.Streams.Registry
import Mathlib.Data.List.Dedup
import Mathlib.Data.List.Perm.Subperm

/-!
# From open to destruction

A client opens streams and closes them, and holds one handle for every open that it has not closed:
the direct output is shared, so its handle may be held several times.  A step is `Good` if it comes
back and destroys what it should: the close of a held handle is not refused, it destroys the object if
no other handle to it is held, and nothing else is destroyed.  The destructor should destroy every
object a handle is still held to.

Some destructors do not come back (`Returns`), `mOutputLPA` is overwritten by each open with
`AUDIO_OUTPUT_FLAG_LPA`, and the destructor closes `mOutput` and the recording input only.  So a run
ends well exactly if every call comes back, an LPA output is never opened while `mOutputLPA` alone
knows a stream that is still held (`Keeps`), and the destructor finds no other streams than `mOutput`
and a recording input whose destructor comes back (`Tidy`).
-/

namespace Msm7x27a.Streams

open Msm7x27a.Audio

/-- A pointer a client was given. -/
inductive Handle where
  | out (p : ℕ) | inp (p : ℕ)
  deriving DecidableEq, Repr

def Handle.address : Handle → ℕ
  | .out p | .inp p => p

def Handle.close (found : Found) (reg : Registry) : Handle → Closed
  | .out p => reg.closeOutputStream found (some p)
  | .inp p => reg.closeInputStream found p

structure State where
  reg : Registry
  /-- The handles returned and not closed since. -/
  held : List Handle := []
  deriving DecidableEq

/-- The members as the constructor leaves them; `junk` is what the memory of `mOutputLPA` holds.  No
recording input lives. -/
def init (junk : Option ℕ) : State := { reg := { mOutputLPA := junk } }

/-- A call of a client, with what it finds, the address of the object that is made and what its setup
reports. -/
inductive Op where
  | openOutput (flags : OutputFlags) (out : ℕ) (lStatus : Status)
  | openInput (found : Found) (r : Registry.InputRequest) (inp : ℕ) (lStatus : Status) (stored : Bool)
  | close (found : Found) (h : Handle)
  deriving DecidableEq

/-- No object that is held lives at the address. -/
def State.Free (s : State) (p : ℕ) : Prop := .out p ∉ s.held ∧ .inp p ∉ s.held

instance (s : State) (p : ℕ) : Decidable (s.Free p) := by unfold State.Free; infer_instance

/-- Whether a call is refused, what it deletes, whether it comes back, and the state after it. -/
structure Effect where
  refused : Bool
  deleted : List ℕ
  returns : Bool
  next : State

def State.opened (s : State) (o : Opened) (h : ℕ → Handle) : Effect :=
  ⟨false, o.deleted, o.returns, ⟨o.reg, (o.stream.map h).toList ++ s.held⟩⟩

def effect (s : State) : Op → Effect
  | .openOutput flags out lStatus => s.opened (s.reg.openOutputStream flags out lStatus) .out
  | .openInput found r inp lStatus stored =>
    s.opened (s.reg.openInputStream found r inp lStatus stored) .inp
  | .close found h =>
    let c := h.close found s.reg
    ⟨c.refused, c.deleted, c.returns, ⟨c.reg, s.held.erase h⟩⟩

/-- `new` returns the address of no living object. -/
def Allocates (s : State) : Op → Prop
  | .openOutput _ p _ | .openInput _ _ p _ _ => s.Free p
  | .close .. => True

instance (s : State) : DecidablePred (Allocates s)
  | .openOutput _ p _ | .openInput _ _ p _ _ => inferInstanceAs (Decidable (s.Free p))
  | .close .. => .isTrue trivial

/-- A call that does not come back ends the run. -/
def step (s : State) (op : Op) : Option State :=
  if Allocates s op ∧ (effect s op).returns = true then some (effect s op).next else none

/-! ### The property and the condition -/

/-- A call destroys what it should. -/
def Destroys (s : State) : Op → Prop
  | .close found h =>
    (h ∈ s.held → (effect s (.close found h)).refused = false) ∧
      (effect s (.close found h)).deleted = if s.held.count h = 1 then [h.address] else []
  | op => ∀ p ∈ (effect s op).deleted, s.Free p

instance (s : State) : DecidablePred (Destroys s)
  | .close .. => inferInstanceAs (Decidable (_ ∧ _))
  | .openOutput .. | .openInput .. => inferInstanceAs (Decidable (∀ p ∈ _, _))

/-- A call comes back, and destroys what it should. -/
def Good (s : State) (op : Op) : Prop := (effect s op).returns = true ∧ Destroys s op

instance (s : State) : DecidablePred (Good s) := fun _ => inferInstanceAs (Decidable (_ ∧ _))

/-- `~AudioHardware` comes back, and destroys, once each, the objects that handles are still held
to. -/
def DestroysRest (last : Found) (s : State) : Prop :=
  (s.reg.destroy last).returns = true ∧
    (s.reg.destroy last).deleted.Perm (s.held.dedup.map Handle.address)

instance (last : Found) : DecidablePred (DestroysRest last) :=
  fun _ => inferInstanceAs (Decidable (_ ∧ List.Perm _ _))

/-- When a call comes back: no `set` is refused where the destructor writes through `mHardware`; a
recording input goes only while there is an output, or FM is on; and where the last close of the
direct output finds the driver open and no VoIP input active, a voice call is on. -/
def Returns (s : State) : Op → Prop
  | .openOutput flags _ lStatus => flags.Direct → s.reg.mDirectOutput = none → lStatus = noError
  | .openInput found r _ lStatus stored =>
    (r.SetsVoip → lStatus = noError ∨ stored = true) ∧
      (s.reg.SetsInput found r →
        lStatus = noError ∨ stored = false ∨ Registry.inputComesBack found s.reg = true)
  | .close found (.out p) =>
    s.reg.mOutput ≠ some p → s.reg.mDirectOutput = some p → s.reg.mDirectOutrefCnt ≤ 1 →
      Registry.directComesBack found = true
  | .close found (.inp p) => p ∈ s.reg.mInputs → Registry.inputComesBack found s.reg = true

instance (s : State) : DecidablePred (Returns s)
  | .openOutput .. | .close _ (.out _) | .close _ (.inp _) => inferInstanceAs (Decidable (_ → _))
  | .openInput .. => inferInstanceAs (Decidable (_ ∧ _))

theorem returns_iff (s : State) (op : Op) : (effect s op).returns = true ↔ Returns s op := by
  cases op with
  | openOutput flags p lStatus => exact Registry.openOutputStream_returns flags p lStatus s.reg
  | openInput found r p lStatus stored =>
    exact Registry.openInputStream_returns found r p lStatus stored s.reg
  | close found h =>
    cases h with
    | out p => exact Registry.closeOutputStream_returns
    | inp p => exact Registry.closeInputStream_returns

/-- The object at the address is held, and no member but `mOutputLPA` points to it. -/
def State.OnlyLpa (s : State) (p : ℕ) : Prop :=
  .out p ∈ s.held ∧ s.reg.mOutput ≠ some p ∧ s.reg.mDirectOutput ≠ some p

instance (s : State) (p : ℕ) : Decidable (s.OnlyLpa p) := by unfold State.OnlyLpa; infer_instance

/-- An LPA output is opened when `mOutputLPA` points to no other held stream, and a pointer that is
not held is not closed where the uninitialised `mOutputLPA` has its value. -/
def KnowsLpa (s : State) : Op → Prop
  | .openOutput flags _ _ => flags.lpa ∧ ¬flags.Direct → ∀ p ∈ s.reg.mOutputLPA, ¬s.OnlyLpa p
  | .close _ (.out p) => .out p ∈ s.held ∨ s.reg.mOutputLPA ≠ some p
  | _ => True

instance (s : State) : DecidablePred (KnowsLpa s)
  | .openOutput .. => inferInstanceAs (Decidable (_ → _))
  | .close _ (.out _) => inferInstanceAs (Decidable (_ ∨ _))
  | .openInput .. | .close _ (.inp _) => .isTrue trivial

/-- The condition on a call: it comes back, and the LPA output stays known. -/
def Keeps (s : State) (op : Op) : Prop := Returns s op ∧ KnowsLpa s op

instance (s : State) : DecidablePred (Keeps s) := fun _ => inferInstanceAs (Decidable (_ ∧ _))

/-- The destructor finds `mOutput`, and no recording input unless its destructor comes back. -/
def Tidy (last : Found) (s : State) : Prop :=
  s.reg.mDirectOutput = none ∧ (∀ p ∈ s.reg.mOutputLPA, ¬s.OnlyLpa p) ∧
    s.reg.mVoipInputs = .empty ∧ (s.reg.mInputs = .empty ∨ Registry.inputComesBack last s.reg = true)

instance (last : Found) : DecidablePred (Tidy last) := fun _ => by unfold Tidy; infer_instance

/-! ### The invariant -/

/-- The members that point to outputs and the handles to outputs agree. -/
structure Outputs (s : State) : Prop where
  output : ∀ p, s.reg.mOutput = some p → s.held.count (.out p) = 1
  direct : ∀ p, s.reg.mDirectOutput = some p →
    (s.held.count (.out p) : Int) = s.reg.mDirectOutrefCnt ∧ 0 < s.reg.mDirectOutrefCnt
  idle : s.reg.mDirectOutput = none → s.reg.mDirectOutrefCnt = 0
  apart : ∀ p, s.reg.mOutput = some p → s.reg.mDirectOutput ≠ some p
  lpa : ∀ p, s.OnlyLpa p → s.reg.mOutputLPA = some p ∧ s.held.count (.out p) = 1

/-- The vectors of inputs and the handles to inputs agree. -/
structure Inputs (s : State) : Prop where
  input : ∀ p, .inp p ∈ s.held ↔ p ∈ s.reg.mInputs ∨ p ∈ s.reg.mVoipInputs
  once : ∀ p, s.held.count (.inp p) ≤ 1
  vectors : ∀ p ∈ s.reg.mInputs, p ∉ s.reg.mVoipInputs
  /-- No address is that of an input and an output. -/
  sides : ∀ p, .inp p ∈ s.held → .out p ∉ s.held
  /-- The recording inputs are counted, and there is one at most. -/
  instances : s.reg.InstanceCount = s.reg.mInputs.size
  one : s.reg.mInputs.size ≤ 1

structure Inv (s : State) : Prop extends Outputs s, Inputs s

theorem inv_init (junk : Option ℕ) : Inv (init junk) where
  output := by simp [init]
  direct := by simp [init]
  idle := by simp [init]
  apart := by simp [init]
  lpa := by simp [init, State.OnlyLpa]
  input := by simp [init]
  once := by simp [init]
  vectors := by simp [init]
  sides := by simp [init]
  instances := rfl
  one := Nat.zero_le _

section Open

variable {s : State} {p : ℕ}

/-- A handle more to an address that is no input's. -/
theorem Inputs.addOut (h : Inputs s) (hp : .inp p ∉ s.held) {reg : Registry}
    (hi : reg.mInputs = s.reg.mInputs) (hv : reg.mVoipInputs = s.reg.mVoipInputs)
    (hn : reg.InstanceCount = s.reg.InstanceCount) : Inputs ⟨reg, .out p :: s.held⟩ where
  input q := by simp [hi, hv, h.input]
  once q := by simpa [List.count_cons] using h.once q
  vectors := by simpa [hi, hv] using h.vectors
  sides q hq := by
    have hq' : Handle.inp q ∈ s.held := by simpa using hq
    have hne : q ≠ p := fun e => hp (e ▸ hq')
    simpa [hne] using h.sides q hq'
  instances := hn.trans (h.instances.trans (congrArg (fun v : SortedVector ℕ => (v.size : Int)) hi.symm))
  one := hi ▸ h.one

theorem Outputs.ne_of_output (h : Outputs s) (hp : s.Free p) {q : ℕ} (hq : s.reg.mOutput = some q) :
    p ≠ q := by
  rintro rfl
  have := h.output p hq
  have := List.count_eq_zero.2 hp.1
  omega

theorem Outputs.ne_of_direct (h : Outputs s) (hp : s.Free p) {q : ℕ}
    (hq : s.reg.mDirectOutput = some q) : p ≠ q := by
  rintro rfl
  have := h.direct p hq
  have := List.count_eq_zero.2 hp.1
  omega

theorem Inv.openDirect (h : Inv s) (hp : s.Free p) (hnone : s.reg.mDirectOutput = none) :
    Inv ⟨{ s.reg with mDirectOutput := some p, mDirectOutrefCnt := s.reg.mDirectOutrefCnt + 1 },
      .out p :: s.held⟩ := by
  refine ⟨⟨?_, ?_, ?_, ?_, ?_⟩, h.toInputs.addOut hp.2 rfl rfl rfl⟩
  · intro q hq
    simpa [List.count_cons, h.ne_of_output hp hq] using h.output q hq
  · rintro q ⟨⟩
    have hidle := h.idle hnone
    simp [List.count_eq_zero.2 hp.1, hidle]
  · simp
  · intro q hq
    simpa using h.ne_of_output hp hq
  · rintro q ⟨hq, hq1, hq2⟩
    have hne : q ≠ p := fun e => hq2 (by simp [e])
    have := h.lpa q ⟨by simpa [hne] using hq, hq1, by simp [hnone]⟩
    simpa [List.count_cons, hne.symm] using this

/-- The direct output is shared. -/
theorem Inv.openAgain (h : Inv s) (hp : s.reg.mDirectOutput = some p) :
    Inv ⟨{ s.reg with mDirectOutrefCnt := s.reg.mDirectOutrefCnt + 1 }, .out p :: s.held⟩ := by
  have hpos := h.direct p hp
  have hmem : Handle.out p ∈ s.held := List.count_pos_iff.1 (by omega)
  refine ⟨⟨?_, ?_, ?_, ?_, ?_⟩, h.toInputs.addOut (fun hin => h.sides _ hin hmem) rfl rfl rfl⟩
  · intro q hq
    have hne : p ≠ q := fun e => h.apart q hq (e ▸ hp)
    simpa [List.count_cons, hne] using h.output q hq
  · intro q hq
    obtain rfl : p = q := Option.some.inj (hp.symm.trans hq)
    simp only [List.count_cons_self]
    omega
  · intro hnone
    rw [hp] at hnone
    cases hnone
  · exact h.apart
  · rintro q ⟨hq, hq1, hq2⟩
    have hne : q ≠ p := fun e => hq2 (e ▸ hp)
    have := h.lpa q ⟨by simpa [hne] using hq, hq1, hq2⟩
    simpa [List.count_cons, hne.symm] using this

theorem Inv.openLpa (h : Inv s) (hp : s.Free p) (hk : ∀ p ∈ s.reg.mOutputLPA, ¬s.OnlyLpa p) :
    Inv ⟨{ s.reg with mOutputLPA := some p }, .out p :: s.held⟩ := by
  refine ⟨⟨?_, ?_, h.idle, h.apart, ?_⟩, h.toInputs.addOut hp.2 rfl rfl rfl⟩
  · intro q hq
    simpa [List.count_cons, h.ne_of_output hp hq] using h.output q hq
  · intro q hq
    simpa [List.count_cons, h.ne_of_direct hp hq] using h.direct q hq
  · rintro q ⟨hq, hq1, hq2⟩
    by_cases hne : q = p
    · subst hne
      simp [List.count_eq_zero.2 hp.1]
    · have honly : s.OnlyLpa q := ⟨by simpa [hne] using hq, hq1, hq2⟩
      exact absurd honly (hk q (h.lpa q honly).1)

theorem Inv.openPcm (h : Inv s) (hp : s.Free p) (hnone : s.reg.mOutput = none) :
    Inv ⟨{ s.reg with mOutput := some p }, .out p :: s.held⟩ := by
  refine ⟨⟨?_, ?_, h.idle, ?_, ?_⟩, h.toInputs.addOut hp.2 rfl rfl rfl⟩
  · rintro q ⟨⟩
    simp [List.count_eq_zero.2 hp.1]
  · intro q hq
    simpa [List.count_cons, h.ne_of_direct hp hq] using h.direct q hq
  · rintro q ⟨⟩ hd
    exact h.ne_of_direct hp hd rfl
  · rintro q ⟨hq, hq1, hq2⟩
    have hne : q ≠ p := fun e => hq1 (by simp [e])
    have := h.lpa q ⟨by simpa [hne] using hq, by simp [hnone], hq2⟩
    simpa [List.count_cons, hne.symm] using this

theorem inv_openOutput {flags : OutputFlags} {lStatus : Status} (h : Inv s) (hp : s.Free p)
    (hk : KnowsLpa s (.openOutput flags p lStatus)) :
    Inv (effect s (.openOutput flags p lStatus)).next := by
  unfold effect State.opened
  dsimp only
  have ho := Registry.opens flags p lStatus s.reg
  generalize s.reg.openOutputStream flags p lStatus = o at ho
  cases ho with
  | fails => exact h
  | direct status hnone => exact h.openDirect hp hnone
  | again d hd => exact h.openAgain hd
  | lpa status hl => exact h.openLpa hp (hk hl)
  | lpaFails status hl =>
    refine ⟨⟨h.output, h.direct, h.idle, h.apart, ?_⟩, ?_⟩
    · intro q hq
      exact absurd hq (hk hl q (h.lpa q hq).1)
    · exact ⟨h.input, h.once, h.vectors, h.sides, h.instances, h.one⟩
  | pcm status hnone => exact h.openPcm hp hnone

/-- The handles to outputs stay when a free address becomes an input's. -/
theorem Outputs.openInput (h : Outputs s) {reg : Registry} (h1 : reg.mOutput = s.reg.mOutput)
    (h2 : reg.mDirectOutput = s.reg.mDirectOutput)
    (h3 : reg.mDirectOutrefCnt = s.reg.mDirectOutrefCnt) (h4 : reg.mOutputLPA = s.reg.mOutputLPA) :
    Outputs ⟨reg, .inp p :: s.held⟩ where
  output q := by simpa [h1, List.count_cons] using h.output q
  direct q := by simpa [h2, h3, List.count_cons] using h.direct q
  idle := by simpa [h2, h3] using h.idle
  apart q := by simpa [h1, h2] using h.apart q
  lpa q := by simpa [State.OnlyLpa, h1, h2, h4, List.count_cons] using h.lpa q

theorem inv_openInput {found : Found} {r : Registry.InputRequest} {lStatus : Status} {stored : Bool}
    (h : Inv s) (hp : s.Free p) : Inv (effect s (.openInput found r p lStatus stored)).next := by
  have hp0 : s.held.count (.inp p) = 0 := List.count_eq_zero.2 hp.2
  have hnot : ¬(p ∈ s.reg.mInputs ∨ p ∈ s.reg.mVoipInputs) := (h.input p).not.1 hp.2
  have honce : ∀ q, (Handle.inp p :: s.held).count (.inp q) ≤ 1 := by
    intro q
    by_cases hq : p = q
    · subst hq
      simp [hp0]
    · simpa [List.count_cons, hq] using h.once q
  have hsides : ∀ q, .inp q ∈ Handle.inp p :: s.held → .out q ∉ Handle.inp p :: s.held := by
    intro q hq
    rcases List.mem_cons.1 hq with e | hq
    · obtain rfl : q = p := by simpa using e
      simpa using hp.1
    · simpa using h.sides q hq
  unfold effect State.opened
  dsimp only
  obtain ⟨status, deleted, returns, e, -⟩ | ⟨status, e⟩ | ⟨status, e, hfirst⟩ :=
    Registry.openInputStream_cases found r p lStatus stored s.reg
  · rw [e]
    exact h
  · rw [e]
    refine ⟨h.toOutputs.openInput rfl rfl rfl rfl, ⟨?_, honce, ?_, hsides, h.instances, h.one⟩⟩
    · intro q
      simp [h.input q, or_left_comm]
    · intro q hq
      have hne : q ≠ p := fun e => hnot (.inl (e ▸ hq))
      simpa [hne] using h.vectors q hq
  · rw [e]
    have hsize : (s.reg.mInputs.add p).size = s.reg.mInputs.size + 1 :=
      SortedVector.size_add fun hin => hnot (.inl hin)
    have hcount := h.instances
    refine ⟨h.toOutputs.openInput rfl rfl rfl rfl, ⟨?_, honce, ?_, hsides, ?_, ?_⟩⟩
    · intro q
      simp [h.input q, or_assoc]
    · intro q hq
      rcases SortedVector.mem_add.1 hq with rfl | hq
      · exact fun hv => hnot (.inr hv)
      · exact h.vectors q hq
    · show s.reg.InstanceCount + 1 = ((s.reg.mInputs.add p).size : Int)
      omega
    · show (s.reg.mInputs.add p).size ≤ 1
      omega

end Open

section Close

variable {s : State} {found : Found} {p : ℕ}

/-- The handles to inputs stay when one to an output goes. -/
theorem Inputs.closeOutput (h : Inputs s) {reg : Registry} (hi : reg.mInputs = s.reg.mInputs)
    (hv : reg.mVoipInputs = s.reg.mVoipInputs) (hn : reg.InstanceCount = s.reg.InstanceCount) :
    Inputs ⟨reg, s.held.erase (.out p)⟩ where
  input q := by simpa [hi, hv] using h.input q
  once q := by simpa [List.count_erase] using h.once q
  vectors := by simpa [hi, hv] using h.vectors
  sides q hq hq' := h.sides q (List.mem_of_mem_erase hq) (List.mem_of_mem_erase hq')
  instances := hn.trans (h.instances.trans (congrArg (fun v : SortedVector ℕ => (v.size : Int)) hi.symm))
  one := hi ▸ h.one

/-- The handles to outputs stay when one to an input goes. -/
theorem Outputs.closeInput (h : Outputs s) {reg : Registry} (h1 : reg.mOutput = s.reg.mOutput)
    (h2 : reg.mDirectOutput = s.reg.mDirectOutput)
    (h3 : reg.mDirectOutrefCnt = s.reg.mDirectOutrefCnt) (h4 : reg.mOutputLPA = s.reg.mOutputLPA) :
    Outputs ⟨reg, s.held.erase (.inp p)⟩ where
  output q := by simpa [h1, List.count_erase] using h.output q
  direct q := by simpa [h2, h3, List.count_erase] using h.direct q
  idle := by simpa [h2, h3] using h.idle
  apart q := by simpa [h1, h2] using h.apart q
  lpa q := by simpa [State.OnlyLpa, h1, h2, h4, List.count_erase] using h.lpa q

/-- What is left of the handles to `q` when one to `p` is closed. -/
theorem count_erase_out (held : List Handle) (p q : ℕ) :
    (held.erase (.out p)).count (.out q) = held.count (.out q) - if p = q then 1 else 0 := by
  simp [List.count_erase]

theorem OnlyLpa.of_erase {reg : Registry} {q : ℕ} (h1 : reg.mOutput = s.reg.mOutput)
    (h2 : reg.mDirectOutput = s.reg.mDirectOutput)
    (h : State.OnlyLpa ⟨reg, s.held.erase (.out p)⟩ q) : s.OnlyLpa q :=
  ⟨List.mem_of_mem_erase h.1, h1 ▸ h.2.1, h2 ▸ h.2.2⟩

/-- The only handle is taken away. -/
theorem ne_of_mem_erase {q : ℕ} (hc : s.held.count (.out p) = 1)
    (hq : .out q ∈ s.held.erase (.out p)) : p ≠ q := by
  rintro rfl
  have hpos := List.count_pos_iff.2 hq
  rw [List.count_erase_self, hc] at hpos
  exact absurd hpos (lt_irrefl 0)

theorem mem_of_output (h : Outputs s) (hp : s.reg.mOutput = some p) : .out p ∈ s.held :=
  List.count_pos_iff.1 (by have := h.output p hp; omega)

theorem mem_of_direct (h : Outputs s) (hp : s.reg.mDirectOutput = some p) : .out p ∈ s.held :=
  List.count_pos_iff.1 (by have := h.direct p hp; omega)

theorem close_output (h : Inv s) (hk : KnowsLpa s (.close found (.out p))) :
    Destroys s (.close found (.out p)) ∧ Inv (effect s (.close found (.out p))).next := by
  unfold Destroys effect
  dsimp only [Handle.close, Handle.address]
  by_cases h1 : s.reg.mOutput = some p
  · rw [Registry.closeOutputStream_output h1]
    have hc := h.output p h1
    refine ⟨⟨fun _ => rfl, by simp [hc]⟩, ⟨?_, ?_, h.idle, by simp, ?_⟩, h.toInputs.closeOutput rfl rfl rfl⟩
    · simp
    · intro q hq
      have hne : p ≠ q := fun e => h.apart p h1 (e ▸ hq)
      simpa [count_erase_out, hne] using h.direct q hq
    · rintro q ⟨hq, -, hq2⟩
      have hne := ne_of_mem_erase hc hq
      have hq1 : s.reg.mOutput ≠ some q := by simpa [h1] using hne
      simpa [count_erase_out, hne] using h.lpa q ⟨List.mem_of_mem_erase hq, hq1, hq2⟩
  · by_cases h2 : s.reg.mDirectOutput = some p
    · obtain ⟨hc, hpos⟩ := h.direct p h2
      have hout : ∀ q, s.reg.mOutput = some q → p ≠ q := fun q hq e => h1 (e ▸ hq)
      rw [Registry.closeOutputStream_direct h1 h2]
      split
      next hle =>
        have hone : s.held.count (.out p) = 1 := by omega
        refine ⟨⟨fun _ => rfl, by simp [hone]⟩, ⟨?_, by simp, ?_, by simp, ?_⟩,
          h.toInputs.closeOutput rfl rfl rfl⟩
        · intro q hq
          simpa [count_erase_out, hout q hq] using h.output q hq
        · intro _
          show s.reg.mDirectOutrefCnt - 1 = 0
          omega
        · rintro q ⟨hq, hq1, -⟩
          have hne := ne_of_mem_erase hone hq
          have hq2 : s.reg.mDirectOutput ≠ some q := by simpa [h2] using hne
          simpa [count_erase_out, hne] using h.lpa q ⟨List.mem_of_mem_erase hq, hq1, hq2⟩
      next hgt =>
        have hmore : s.held.count (.out p) ≠ 1 := by omega
        refine ⟨⟨fun _ => rfl, by simp [hmore]⟩, ⟨?_, ?_, ?_, h.apart, ?_⟩,
          h.toInputs.closeOutput rfl rfl rfl⟩
        · intro q hq
          simpa [count_erase_out, hout q hq] using h.output q hq
        · intro q hq
          obtain rfl : p = q := Option.some.inj (h2.symm.trans hq)
          simp only [count_erase_out, if_true]
          omega
        · intro hnone
          rw [h2] at hnone
          cases hnone
        · intro q hq
          have hne : p ≠ q := fun e => hq.2.2 (e ▸ h2)
          simpa [count_erase_out, hne] using h.lpa q (OnlyLpa.of_erase rfl rfl hq)
    · by_cases h3 : s.reg.mOutputLPA = some p
      · have hmem : .out p ∈ s.held := hk.resolve_right (not_not.2 h3)
        obtain ⟨-, hc⟩ := h.lpa p ⟨hmem, h1, h2⟩
        rw [Registry.closeOutputStream_lpa h1 h2 h3]
        refine ⟨⟨fun _ => rfl, by simp [hc]⟩, ⟨?_, ?_, h.idle, h.apart, ?_⟩,
          h.toInputs.closeOutput rfl rfl rfl⟩
        · intro q hq
          have hne : p ≠ q := fun e => h1 (e ▸ hq)
          simpa [count_erase_out, hne] using h.output q hq
        · intro q hq
          have hne : p ≠ q := fun e => h2 (e ▸ hq)
          simpa [count_erase_out, hne] using h.direct q hq
        · intro q hq
          have hne := ne_of_mem_erase hc hq.1
          have hq3 := (h.lpa q (OnlyLpa.of_erase rfl rfl hq)).1
          exact absurd (Option.some.inj (h3.symm.trans hq3)) hne
      · have hnot : .out p ∉ s.held := fun hmem => h3 (h.lpa p ⟨hmem, h1, h2⟩).1
        rw [Registry.closeOutputStream_refused h1 h2 h3, List.erase_of_not_mem hnot]
        exact ⟨⟨fun hmem => absurd hmem hnot, by simp [List.count_eq_zero.2 hnot]⟩, h⟩

/-- One handle to each input: closing it leaves the others. -/
theorem Inputs.mem_erase (h : Inputs s) {q : ℕ} :
    .inp q ∈ s.held.erase (.inp p) ↔ .inp q ∈ s.held ∧ q ≠ p := by
  by_cases hq : q = p
  · subst hq
    have := h.once q
    simp only [ne_eq, not_true_eq_false, and_false, iff_false]
    rw [← List.count_pos_iff, List.count_erase_self]
    omega
  · simp [hq]

theorem close_input (h : Inv s) :
    Destroys s (.close found (.inp p)) ∧ Inv (effect s (.close found (.inp p))).next := by
  have honce : ∀ q, (s.held.erase (.inp p)).count (.inp q) ≤ 1 := by
    intro q
    exact le_trans ((List.erase_sublist ..).count_le _) (h.once q)
  have hsides : ∀ q, .inp q ∈ s.held.erase (.inp p) → .out q ∉ s.held.erase (.inp p) := by
    intro q hq hq'
    exact h.sides q (List.mem_of_mem_erase hq) (List.mem_of_mem_erase hq')
  have hcount : .inp p ∈ s.held → s.held.count (.inp p) = 1 := by
    intro hmem
    have := List.count_pos_iff.2 hmem
    have := h.once p
    omega
  unfold Destroys effect
  dsimp only [Handle.close, Handle.address]
  obtain ⟨i, hi, e⟩ | ⟨hnot, i, hi, e⟩ | ⟨hnot, hnot', e⟩ :=
    Registry.closeInputStream_cases found p s.reg
  · have hc := hcount ((h.input p).2 (.inl (SortedVector.mem_of_get? hi)))
    have hvoip := h.vectors p (SortedVector.mem_of_get? hi)
    have hsize := SortedVector.size_removeAt (SortedVector.lt_of_get? hi)
    have hcount := h.instances
    have hone := h.one
    rw [e]
    refine ⟨⟨fun _ => rfl, by simp [hc]⟩, h.toOutputs.closeInput rfl rfl rfl rfl, ?_, honce, ?_, hsides,
      ?_, ?_⟩
    · intro q
      rw [h.toInputs.mem_erase, h.input q]
      simp only [SortedVector.mem_removeAt hi]
      have hne : q ∈ s.reg.mVoipInputs → q ≠ p := fun hq e => hvoip (e ▸ hq)
      rw [or_and_right, and_iff_left_of_imp hne]
    · intro q hq
      exact h.vectors q ((SortedVector.mem_removeAt hi).1 hq).1
    · show s.reg.InstanceCount - 1 = ((s.reg.mInputs.removeAt i).size : Int)
      omega
    · show (s.reg.mInputs.removeAt i).size ≤ 1
      omega
  · have hc := hcount ((h.input p).2 (.inr (SortedVector.mem_of_get? hi)))
    rw [e]
    refine ⟨⟨fun _ => rfl, by simp [hc]⟩, h.toOutputs.closeInput rfl rfl rfl rfl, ?_, honce, ?_, hsides,
      h.instances, h.one⟩
    · intro q
      rw [h.toInputs.mem_erase, h.input q]
      simp only [SortedVector.mem_removeAt hi]
      have hne : q ∈ s.reg.mInputs → q ≠ p := fun hq e => hnot (e ▸ hq)
      rw [or_and_right, and_iff_left_of_imp hne]
    · intro q hq hq'
      exact h.vectors q hq ((SortedVector.mem_removeAt hi).1 hq').1
  · have hmem : .inp p ∉ s.held := fun hm => ((h.input p).1 hm).elim hnot hnot'
    rw [e, List.erase_of_not_mem hmem]
    exact ⟨⟨fun hm => absurd hm hmem, by simp [List.count_eq_zero.2 hmem]⟩, h⟩

end Close

/-- A call that keeps track of the LPA output destroys what it should and keeps the invariant. -/
theorem destroys_inv {s : State} {op : Op} (h : Inv s) (ha : Allocates s op) (hk : KnowsLpa s op) :
    Destroys s op ∧ Inv (effect s op).next := by
  cases op with
  | openOutput flags p lStatus =>
    refine ⟨?_, inv_openOutput h ha hk⟩
    have ho := Registry.opens flags p lStatus s.reg
    show ∀ q ∈ (s.reg.openOutputStream flags p lStatus).deleted, s.Free q
    generalize s.reg.openOutputStream flags p lStatus = o at ho
    cases ho with
    | fails status deleted returns hd => exact fun q hq => hd q hq ▸ ha
    | lpaFails => simpa using (show s.Free p from ha)
    | _ => simp
  | openInput found r p lStatus stored =>
    refine ⟨?_, inv_openInput h ha⟩
    show ∀ q ∈ (s.reg.openInputStream found r p lStatus stored).deleted, s.Free q
    obtain ⟨status, deleted, returns, e, hd⟩ | ⟨status, e⟩ | ⟨status, e, -⟩ :=
      Registry.openInputStream_cases found r p lStatus stored s.reg
    · rw [e]
      exact fun q hq => hd q hq ▸ ha
    · simp [e]
    · simp [e]
  | close found hd =>
    cases hd with
    | out p => exact close_output h hk
    | inp p => exact close_input h

/-! ### A stream that no member knows any more -/

/-- The output is held and no member points to it. -/
structure Lost (p : ℕ) (s : State) : Prop where
  held : .out p ∈ s.held
  output : s.reg.mOutput ≠ some p
  direct : s.reg.mDirectOutput ≠ some p
  lpa : s.reg.mOutputLPA ≠ some p
  input : p ∉ s.reg.mInputs

/-- A lost output stays lost: its close would be refused. -/
theorem Lost.kept {p : ℕ} {s : State} {op : Op} (h : Lost p s) (ha : Allocates s op)
    (hg : Destroys s op) : Lost p (effect s op).next := by
  cases op with
  | openOutput flags q lStatus =>
    have hne : q ≠ p := fun e => ha.1 (e ▸ h.held)
    have ho := Registry.opens flags q lStatus s.reg
    show Lost p (s.opened (s.reg.openOutputStream flags q lStatus) .out).next
    generalize s.reg.openOutputStream flags q lStatus = o at ho
    have hmem := List.mem_append_right (o.stream.map Handle.out).toList h.held
    cases ho with
    | fails => exact ⟨hmem, h.output, h.direct, h.lpa, h.input⟩
    | direct => exact ⟨hmem, h.output, by simpa [State.opened] using hne, h.lpa, h.input⟩
    | again => exact ⟨hmem, h.output, h.direct, h.lpa, h.input⟩
    | lpa => exact ⟨hmem, h.output, h.direct, by simpa [State.opened] using hne, h.input⟩
    | lpaFails => exact ⟨hmem, h.output, h.direct, by simp [State.opened], h.input⟩
    | pcm => exact ⟨hmem, by simpa [State.opened] using hne, h.direct, h.lpa, h.input⟩
  | openInput found r q lStatus stored =>
    have hne : p ≠ q := fun e => ha.1 (e ▸ h.held)
    show Lost p (s.opened (s.reg.openInputStream found r q lStatus stored) .inp).next
    obtain ⟨status, deleted, returns, e, -⟩ | ⟨status, e⟩ | ⟨status, e, -⟩ :=
      Registry.openInputStream_cases found r q lStatus stored s.reg
    · rw [e]
      exact ⟨h.held, h.output, h.direct, h.lpa, h.input⟩
    · rw [e]
      exact ⟨List.mem_cons_of_mem _ h.held, h.output, h.direct, h.lpa, h.input⟩
    · rw [e]
      have hnot : p ∉ s.reg.mInputs.add q := by simpa [hne] using h.input
      exact ⟨List.mem_cons_of_mem _ h.held, h.output, h.direct, h.lpa, hnot⟩
  | close found hd =>
    cases hd with
    | out q =>
      have hne : q ≠ p := by
        rintro rfl
        have hr : s.reg.closeOutputStream found (some q) = ⟨true, s.reg, [], true⟩ :=
          Registry.closeOutputStream_refused h.output h.direct h.lpa
        have := hg.1 h.held
        simp [effect, Handle.close, hr] at this
      obtain ⟨h1, h2, h3, h4⟩ := Registry.closeOutputStream_frame found (some q) s.reg p
      exact ⟨(List.mem_erase_of_ne (by simpa using hne.symm)).2 h.held, h.output ∘ h1, h.direct ∘ h2,
        h.lpa ∘ h3, fun hp => h.input (h4 ▸ hp)⟩
    | inp q =>
      have hmem : .out p ∈ s.held.erase (.inp q) := (List.mem_erase_of_ne (by simp)).2 h.held
      show Lost p ⟨(s.reg.closeInputStream found q).reg, s.held.erase (.inp q)⟩
      obtain ⟨i, hi, e⟩ | ⟨-, i, -, e⟩ | ⟨-, -, e⟩ := Registry.closeInputStream_cases found q s.reg
      · rw [e]
        exact ⟨hmem, h.output, h.direct, h.lpa, fun hp => h.input ((SortedVector.mem_removeAt hi).1 hp).1⟩
      · rw [e]
        exact ⟨hmem, h.output, h.direct, h.lpa, h.input⟩
      · rw [e]
        exact ⟨hmem, h.output, h.direct, h.lpa, h.input⟩

theorem mem_rest {s : State} {h : Handle} (hh : h ∈ s.held) :
    h.address ∈ s.held.dedup.map Handle.address :=
  List.mem_map_of_mem (List.mem_dedup.2 hh)

theorem Lost.not_destroysRest {p : ℕ} {last : Found} {s : State} (h : Lost p s) :
    ¬DestroysRest last s := by
  intro hd
  have hp : p ∈ (s.reg.destroy last).deleted := hd.2.mem_iff.2 (mem_rest h.held)
  exact (Registry.mem_destroy hp).elim h.output h.input

/-- A call that loses track of the LPA output either destroys what it should not, or loses it. -/
theorem lost_of_not_knowsLpa {s : State} {op : Op} (h : Inv s) (ha : Allocates s op)
    (hk : ¬KnowsLpa s op) (hg : Destroys s op) : ∃ p, Lost p (effect s op).next := by
  cases op with
  | openOutput flags q lStatus =>
    simp only [KnowsLpa, not_forall, not_not] at hk
    obtain ⟨hflags, p, hp, honly⟩ := hk
    have hne : q ≠ p := fun e => ha.1 (e ▸ honly.1)
    have hin : p ∉ s.reg.mInputs := fun hi => h.sides p ((h.input p).2 (.inl hi)) honly.1
    refine ⟨p, ?_⟩
    show Lost p (s.opened (s.reg.openOutputStream flags q lStatus) .out).next
    unfold Registry.openOutputStream
    rw [if_neg (by simp [hflags.1]), if_neg hflags.2, if_pos hflags.1]
    split
    · exact ⟨List.mem_cons_of_mem _ honly.1, honly.2.1, honly.2.2,
        by simpa [State.opened] using hne, hin⟩
    · exact ⟨honly.1, honly.2.1, honly.2.2, by simp [State.opened], hin⟩
  | openInput => exact absurd trivial hk
  | close found hd =>
    cases hd with
    | inp => exact absurd trivial hk
    | out p =>
      -- a pointer that is not held is closed: the uninitialised `mOutputLPA` is deleted
      simp only [KnowsLpa, not_or, not_not] at hk
      obtain ⟨hnot, hlpa⟩ := hk
      have h1 : s.reg.mOutput ≠ some p := fun e => hnot (mem_of_output h.toOutputs e)
      have h2 : s.reg.mDirectOutput ≠ some p := fun e => hnot (mem_of_direct h.toOutputs e)
      have hdel := hg.2
      simp [effect, Handle.close, Registry.closeOutputStream_lpa h1 h2 hlpa,
        List.count_eq_zero.2 hnot] at hdel

/-! ### The destructor -/

section Destructor

variable {s : State} {last : Found}

/-- What is held in a tidy state. -/
theorem held_of_tidy (h : Inv s) (ht : Tidy last s) : (s.held.dedup.map Handle.address).Perm
    (s.reg.mInputs.toList ++ s.reg.mOutput.toList) := by
  obtain ⟨hdirect, hlpa, hvoip, -⟩ := ht
  have hrest : s.held.dedup.Perm
      (s.reg.mInputs.toList.map Handle.inp ++ s.reg.mOutput.toList.map Handle.out) := by
    refine (List.perm_ext_iff_of_nodup (List.nodup_dedup _) ?_).2 ?_
    · rw [List.nodup_append]
      refine ⟨s.reg.mInputs.nodup.map (fun _ _ e => by simpa using e), ?_, by simp⟩
      cases s.reg.mOutput <;> simp
    · intro hd
      rw [List.mem_dedup, List.mem_append, List.mem_map, List.mem_map]
      cases hd with
      | inp p =>
        rw [h.input p, hvoip]
        simp [SortedVector.mem_def, SortedVector.empty]
      | out p =>
        constructor
        · intro hp
          by_contra hnot
          have hout : s.reg.mOutput ≠ some p := fun e => hnot (.inr ⟨p, by simp [e], rfl⟩)
          have honly : s.OnlyLpa p := ⟨hp, hout, by simp [hdirect]⟩
          exact hlpa p (h.lpa p honly).1 honly
        · rintro (⟨q, -, e⟩ | ⟨q, hq, e⟩)
          · cases e
          · obtain rfl : q = p := by simpa using e
            exact mem_of_output h.toOutputs (by simpa using hq)
  refine (hrest.map Handle.address).trans (List.Perm.of_eq ?_)
  simp [Function.comp_def, Handle.address]

theorem destroysRest_of_tidy (h : Inv s) (ht : Tidy last s) : DestroysRest last s := by
  have hheld := held_of_tidy h ht
  rcases SortedVector.eq_empty_or_singleton h.one with he | ⟨p, hp⟩
  · obtain ⟨hret, hdel⟩ := Registry.destroy_of_empty last he
    rw [he] at hheld
    exact ⟨hret, hdel ▸ hheld.symm⟩
  · obtain ⟨hret, hdel⟩ := Registry.destroy_of_singleton last hp
    have hback : Registry.inputComesBack last s.reg = true := by
      refine ht.2.2.2.resolve_left fun he => ?_
      rw [he] at hp
      cases hp
    rw [hp] at hheld
    exact ⟨hret.trans hback, hdel hback ▸ hheld.symm⟩

theorem tidy_of_destroysRest (h : Inv s) (hd : DestroysRest last s) : Tidy last s := by
  have hmem : ∀ p, .out p ∈ s.held ∨ .inp p ∈ s.held →
      s.reg.mOutput = some p ∨ p ∈ s.reg.mInputs := by
    rintro p (hp | hp)
    · exact Registry.mem_destroy (hd.2.mem_iff.2 (mem_rest hp))
    · exact Registry.mem_destroy (hd.2.mem_iff.2 (mem_rest hp))
  have hout : ∀ p, .out p ∈ s.held → s.reg.mOutput = some p := by
    intro p hp
    refine (hmem p (.inl hp)).resolve_right fun hin => ?_
    exact h.sides p ((h.input p).2 (.inl hin)) hp
  refine ⟨?_, ?_, ?_, ?_⟩
  · by_contra hne
    obtain ⟨p, hp⟩ := Option.ne_none_iff_exists'.1 hne
    exact h.apart p (hout p (mem_of_direct h.toOutputs hp)) hp
  · intro p _ honly
    exact honly.2.1 (hout p honly.1)
  · by_contra hne
    obtain ⟨p, hp⟩ : ∃ p, p ∈ s.reg.mVoipInputs := SortedVector.exists_mem hne
    have hheld := (h.input p).2 (.inr hp)
    rcases hmem p (.inr hheld) with e | hin
    · exact h.sides p hheld (mem_of_output h.toOutputs e)
    · exact h.vectors p hin hp
  · rcases SortedVector.eq_empty_or_singleton h.one with he | ⟨p, hp⟩
    · exact .inl he
    · exact .inr ((Registry.destroy_of_singleton last hp).1.symm.trans hd.1)

end Destructor

/-! ### Whole runs -/

theorem step_eq {s s' : State} {op : Op} (h : step s op = some s') :
    Allocates s op ∧ (effect s op).next = s' := by
  unfold step at h
  split at h
  next ha => exact ⟨ha.1, Option.some.inj h⟩
  next => cases h

theorem step_of_returns {s : State} {op : Op} (ha : Allocates s op)
    (hr : (effect s op).returns = true) : step s op = some (effect s op).next := if_pos ⟨ha, hr⟩

theorem Lost.run {p : ℕ} {s t : State} {ops : List Op} (h : Lost p s)
    (hg : Runs.Along step Good s ops) (hr : Runs.run step s ops = some t) : Lost p t := by
  refine Runs.run_inv (C := Good) (I := Lost p) ?_ h hg hr
  intro s op s' hl hgood hs
  obtain ⟨ha, rfl⟩ := step_eq hs
  exact hl.kept ha hgood.2

theorem good_iff_keeps {last : Found} {s : State} {ops : List Op} (h : Inv s)
    (ha : Runs.Along step Allocates s ops) :
    (Runs.Along step Good s ops ∧ ∃ t ∈ Runs.run step s ops, DestroysRest last t) ↔
      Runs.Along step Keeps s ops ∧ ∃ t ∈ Runs.run step s ops, Tidy last t := by
  induction ops generalizing s with
  | nil =>
    have hend : DestroysRest last s ↔ Tidy last s :=
      ⟨tidy_of_destroysRest h, destroysRest_of_tidy h⟩
    simpa [Runs.run, Runs.Along] using hend
  | cons op ops ih =>
    by_cases hret : (effect s op).returns = true
    · have hs := step_of_returns ha.1 hret
      have hrun : Runs.run step s (op :: ops) = Runs.run step (effect s op).next ops := by
        simp [Runs.run, hs]
      have ha' := ((Runs.along_cons hs).1 ha).2
      rw [Runs.along_cons hs, Runs.along_cons hs, hrun]
      constructor
      · rintro ⟨⟨hg, hrest⟩, t, hr, hd⟩
        by_cases hk : KnowsLpa s op
        · obtain ⟨hk', ht⟩ := (ih (destroys_inv h ha.1 hk).2 ha').1 ⟨hrest, t, hr, hd⟩
          exact ⟨⟨⟨(returns_iff s op).1 hret, hk⟩, hk'⟩, ht⟩
        · obtain ⟨p, hp⟩ := lost_of_not_knowsLpa h ha.1 hk hg.2
          exact absurd hd (hp.run hrest hr).not_destroysRest
      · rintro ⟨⟨hk, hrest⟩, ht⟩
        obtain ⟨hg, hi⟩ := destroys_inv h ha.1 hk.2
        obtain ⟨hg', hd⟩ := (ih hi ha').2 ⟨hrest, ht⟩
        exact ⟨⟨⟨hret, hg⟩, hg'⟩, hd⟩
    · -- the run ends here
      refine iff_of_false ?_ ?_
      · rintro ⟨hg, -⟩
        exact hret hg.1.1
      · rintro ⟨hk, -⟩
        exact hret ((returns_iff s op).2 hk.1.1)

/-- **Streams are destroyed once.** The calls of a run and the destructor after it come back and destroy
what they should exactly if every call meets the condition and the destructor finds a tidy state. -/
theorem destroyed_once_iff {junk : Option ℕ} {last : Found} {ops : List Op}
    (ha : Runs.Along step Allocates (init junk) ops) :
    (Runs.Along step Good (init junk) ops ∧
        ∃ s ∈ Runs.run step (init junk) ops, DestroysRest last s) ↔
      Runs.Along step Keeps (init junk) ops ∧ ∃ s ∈ Runs.run step (init junk) ops, Tidy last s :=
  good_iff_keeps (inv_init junk) ha

def direct : OutputFlags := { direct := true, voipRx := true }

def lpa : OutputFlags := { lpa := true }

/-- What a call finds while a VoIP input is active. -/
def onVoip : Found := { mMode := .inCommunication, mVoipFd := true, mVoipInActive := true }

/-- Streams of all kinds; the direct output is opened and closed twice, while the VoIP input is open. -/
def aSession : List Op :=
  [.openOutput {} 1 noError, .openOutput direct 2 noError, .openOutput lpa 3 noError,
    .openOutput direct 4 noError, .openInput {} {} 5 noError true,
    .openInput {} {} 6 ebusy false, .openInput {} { inCommunication := true } 6 noError true,
    .close onVoip (.out 2), .close onVoip (.out 3), .close onVoip (.out 2), .close onVoip (.inp 6)]

/-- The first output and an input are left for the destructor. -/
theorem destroyed_once_session : Runs.Along step Good (init none) aSession ∧
    ∃ s ∈ Runs.run step (init none) aSession, DestroysRest {} s :=
  (destroyed_once_iff (by decide +kernel)).2 (by decide +kernel)

/-- Two LPA outputs are opened: the first is refused when it is closed, and destroyed by nobody. -/
theorem lpa_replaced :
    Runs.Along step Allocates (init none)
        [.openOutput lpa 1 noError, .openOutput lpa 2 noError, .close {} (.out 1)] ∧
      ¬(Runs.Along step Good (init none)
          [.openOutput lpa 1 noError, .openOutput lpa 2 noError, .close {} (.out 1)] ∧
        ∃ s ∈ Runs.run step (init none)
          [.openOutput lpa 1 noError, .openOutput lpa 2 noError, .close {} (.out 1)],
          DestroysRest {} s) := by
  decide +kernel

/-- The VoIP input is closed before the direct output: the driver stays open, and the last close of the
direct output hangs. -/
example : Runs.run step (init none)
    [.openInput {} { inCommunication := true } 1 noError true, .openOutput direct 2 noError,
      .close onVoip (.inp 1),
      .close { mMode := .inCommunication, mVoipFd := true } (.out 2)] = none := by
  decide +kernel

end Msm7x27a.Streams
