import Mathlib.Logic.Function.Basic
import Mathlib.Data.List.Basic

/-!
# The pins of Bluetooth and FM

`switch_mode` switches the lines of the codec between Bluetooth PCM and FM I2S, one register after the
other over I2C, in the build that `BoardConfigCommon.mk` makes with FM and without `REG_KERNEL_UPDATE`, which
`Android.mk` defines in a tree of ICECREAM_SANDWICH only: there `switch_mode` returns 0 and leaves the
pins alone.  A write that fails ends the call, and the next call starts from what is there.
-/

namespace Msm7x27a.Route.Pins

/-- The address of a register. -/
abbrev Reg := BitVec 8

/-- What the registers hold. -/
abbrev Regs := Reg → BitVec 8

def BT_PCM_BCLK_MODE : Reg := 0x88
def BT_PCM_SYNC_MODE : Reg := 0x8B
def FM_I2S_SD_MODE : Reg := 0x8E
def FM_I2S_SCK_MODE : Reg := 0x90

def I2C_PIN_CTL : BitVec 8 := 0x15
def I2C_NORMAL : BitVec 8 := 0x40

def MODE_FM : Int := 0

/-- The values of `reg` in `for (reg = first; reg <= last; reg++)`. -/
def regsFrom (first last : Reg) : List Reg :=
  (List.range (last.toNat - first.toNat + 1)).map fun i => first + BitVec.ofNat 8 i

def btRegs : List Reg := regsFrom BT_PCM_BCLK_MODE BT_PCM_SYNC_MODE

def fmRegs : List Reg := regsFrom FM_I2S_SD_MODE FM_I2S_SCK_MODE

/-- What a series of writes leaves behind. -/
structure Outcome where
  /-- The registers after each write. -/
  states : List Regs
  regs : Regs
  retval : Int

/-- One of the loops of `switch_pins`; `ok` says whether the write to a register succeeds. -/
def writeLoop (ok : Reg → Bool) (value : BitVec 8) : List Reg → Int → Regs → Outcome
  | [], retval, r => ⟨[], r, retval⟩
  | reg :: regs, _, r =>
    if ok reg then
      let o := writeLoop ok value regs 0 (Function.update r reg value)
      ⟨Function.update r reg value :: o.states, o.regs, o.retval⟩
    else ⟨[r], r, -1⟩

/-- The lines that are switched off for a path, and those that are switched on. -/
def offRegs (nPath : Int) : List Reg := if nPath = MODE_FM then btRegs else fmRegs

def onRegs (nPath : Int) : List Reg := if nPath = MODE_FM then fmRegs else btRegs

def switch_pins (ok : Reg → Bool) (nPath : Int) (r : Regs) : Outcome :=
  let o := writeLoop ok I2C_PIN_CTL (offRegs nPath) (-1) r
  if o.retval < 0 then o
  else
    let o' := writeLoop ok I2C_NORMAL (onRegs nPath) o.retval o.regs
    ⟨o.states ++ o'.states, o'.regs, if o'.retval < 0 then o'.retval else 0⟩

/-- A call of `switch_mode`, and how the driver answers. -/
structure Call where
  nMode : Int
  /-- `open(FM_DEVICE_PATH)` succeeds. -/
  opens : Bool
  ok : Reg → Bool

def switch_mode (c : Call) (r : Regs) : Outcome :=
  if c.opens then switch_pins c.ok c.nMode r else ⟨[], r, -1⟩

/-- The registers after each write of some calls. -/
def states : List Call → Regs → List Regs
  | [], _ => []
  | c :: cs, r => (switch_mode c r).states ++ states cs (switch_mode c r).regs

/-- The registers after some calls. -/
def final : List Call → Regs → Regs
  | [], r => r
  | c :: cs, r => final cs (switch_mode c r).regs

/-! ### One series of writes -/

/-- All of the lines are in pin control. -/
def Pinned (regs : List Reg) (r : Regs) : Prop := ∀ reg ∈ regs, r reg = I2C_PIN_CTL

/-- Not both groups have a line that is live. -/
def Exclusive (r : Regs) : Prop :=
  ¬ ((∃ reg ∈ btRegs, r reg ≠ I2C_PIN_CTL) ∧ ∃ reg ∈ fmRegs, r reg ≠ I2C_PIN_CTL)

theorem exclusive_iff (r : Regs) : Exclusive r ↔ Pinned btRegs r ∨ Pinned fmRegs r := by
  unfold Exclusive Pinned
  rw [not_and_or]
  simp only [not_exists, not_and, not_not]

/-- The lines on and off of a path are the two groups. -/
theorem exclusive_iff_path (nPath : Int) (r : Regs) :
    Exclusive r ↔ Pinned (offRegs nPath) r ∨ Pinned (onRegs nPath) r := by
  rw [exclusive_iff]
  unfold offRegs onRegs
  split
  · rfl
  · exact or_comm

theorem off_on_disjoint (nPath : Int) : ∀ reg ∈ offRegs nPath, reg ∉ onRegs nPath := by
  unfold offRegs onRegs
  split <;> decide

variable {ok : Reg → Bool} {value : BitVec 8} {regs : List Reg} {rc : Int} {r : Regs}

/-- What each single write keeps, a series of writes keeps. -/
theorem writeLoop_inv {P : Regs → Prop}
    (hP : ∀ r, P r → ∀ reg ∈ regs, P (Function.update r reg value)) (hr : P r) :
    (∀ r' ∈ (writeLoop ok value regs rc r).states, P r') ∧ P (writeLoop ok value regs rc r).regs := by
  induction regs generalizing rc r with
  | nil => exact ⟨fun _ h => absurd h (List.not_mem_nil), hr⟩
  | cons reg regs ih =>
    unfold writeLoop
    split
    · have hr' := hP r hr reg (List.mem_cons_self ..)
      have hrest := @ih 0 _ (fun r h reg hreg => hP r h reg (List.mem_cons_of_mem _ hreg)) hr'
      exact ⟨List.forall_mem_cons.2 ⟨hr', hrest.1⟩, hrest.2⟩
    · exact ⟨fun r' h => (List.mem_singleton.1 h) ▸ hr, hr⟩

/-- A series that succeeds has written every register. -/
theorem writeLoop_done (h : ¬ (writeLoop ok value regs rc r).retval < 0) :
    ∀ reg ∈ regs, (writeLoop ok value regs rc r).regs reg = value := by
  induction regs generalizing rc r with
  | nil => exact fun _ h => absurd h (List.not_mem_nil)
  | cons reg regs ih =>
    unfold writeLoop at h ⊢
    split at h
    next hok =>
      rw [if_pos hok]
      rw [List.forall_mem_cons]
      refine ⟨?_, ih h⟩
      -- no later write changes what has just been written
      refine (writeLoop_inv (P := fun r => r reg = value) ?_ (Function.update_self ..)).2
      intro r' hr' reg' _
      by_cases he : reg = reg'
      · rw [he, Function.update_self]
      · rw [Function.update_of_ne he, hr']
    next => exact absurd (by decide : (-1 : Int) < 0) h

/-- A series leaves the other registers as they are. -/
theorem pinned_writeLoop {regs' : List Reg} (hd : ∀ reg ∈ regs', reg ∉ regs) (hr : Pinned regs' r) :
    (∀ r' ∈ (writeLoop ok value regs rc r).states, Pinned regs' r') ∧
      Pinned regs' (writeLoop ok value regs rc r).regs := by
  refine writeLoop_inv (fun r hr reg hreg reg' hreg' => ?_) hr
  have hne : reg' ≠ reg := by
    rintro rfl
    exact hd _ hreg' hreg
  rw [Function.update_of_ne hne]
  exact hr reg' hreg'

/-- Putting a line into pin control keeps the lines apart. -/
theorem exclusive_pin (hr : Exclusive r) (reg : Reg) :
    Exclusive (Function.update r reg I2C_PIN_CTL) := by
  have hpin : ∀ regs, Pinned regs r → Pinned regs (Function.update r reg I2C_PIN_CTL) := by
    intro regs h reg' hreg'
    by_cases he : reg' = reg
    · rw [he, Function.update_self]
    · rw [Function.update_of_ne he]
      exact h reg' hreg'
  rw [exclusive_iff] at hr ⊢
  exact hr.imp (hpin _) (hpin _)

/-! ### Calls -/

/-- A call keeps the lines apart after each of its writes. -/
theorem exclusive_switch_pins (nPath : Int) (hr : Exclusive r) :
    (∀ r' ∈ (switch_pins ok nPath r).states, Exclusive r') ∧ Exclusive (switch_pins ok nPath r).regs := by
  have hoff : (∀ r' ∈ (writeLoop ok I2C_PIN_CTL (offRegs nPath) (-1) r).states, Exclusive r') ∧
      Exclusive (writeLoop ok I2C_PIN_CTL (offRegs nPath) (-1) r).regs :=
    writeLoop_inv (fun r h reg _ => exclusive_pin h reg) hr
  unfold switch_pins
  dsimp only
  split
  next => exact hoff
  next hrc =>
    -- the other group is in pin control before the first line is switched on
    have hpinned : Pinned (offRegs nPath) (writeLoop ok I2C_PIN_CTL (offRegs nPath) (-1) r).regs :=
      writeLoop_done hrc
    have hexclusive : ∀ r', Pinned (offRegs nPath) r' → Exclusive r' := fun r' h =>
      (exclusive_iff_path nPath r').2 (.inl h)
    refine ⟨fun r' hr' => ?_, hexclusive _ (pinned_writeLoop (off_on_disjoint nPath) hpinned).2⟩
    rcases List.mem_append.1 hr' with hr' | hr'
    · exact hoff.1 r' hr'
    · exact hexclusive r' ((pinned_writeLoop (off_on_disjoint nPath) hpinned).1 r' hr')

theorem exclusive_switch_mode (c : Call) (hr : Exclusive r) :
    (∀ r' ∈ (switch_mode c r).states, Exclusive r') ∧ Exclusive (switch_mode c r).regs := by
  unfold switch_mode
  split
  · exact exclusive_switch_pins c.nMode hr
  · exact ⟨fun _ h => absurd h (List.not_mem_nil), hr⟩

/-- A call that returns 0 has switched both groups. -/
theorem switched_of_zero (c : Call) (r : Regs) (h : (switch_mode c r).retval = 0) :
    (∀ reg ∈ onRegs c.nMode, (switch_mode c r).regs reg = I2C_NORMAL) ∧
      Pinned (offRegs c.nMode) (switch_mode c r).regs := by
  unfold switch_mode at h ⊢
  split at h
  next hopens =>
    rw [if_pos hopens]
    unfold switch_pins at h ⊢
    dsimp only at h ⊢
    split at h
    next hrc => omega
    next hrc =>
      rw [if_neg hrc]
      dsimp only at h
      split at h
      next hrc' => omega
      next hrc' =>
        exact ⟨writeLoop_done hrc', (pinned_writeLoop (off_on_disjoint c.nMode) (writeLoop_done hrc)).2⟩
  next => cases h

/-- **Bluetooth PCM and FM I2S are never live together**, after any write of any calls, and a call that
returns 0 has switched the lines of its mode on and the others off. -/
theorem lines_exclusive (calls : List Call) (r : Regs) (hr : Exclusive r) :
    (∀ r' ∈ states calls r, Exclusive r') ∧
      ∀ before c after, calls = before ++ c :: after → (switch_mode c (final before r)).retval = 0 →
        (∀ reg ∈ onRegs c.nMode, (switch_mode c (final before r)).regs reg = I2C_NORMAL) ∧
          ∀ reg ∈ offRegs c.nMode, (switch_mode c (final before r)).regs reg = I2C_PIN_CTL := by
  refine ⟨?_, fun before c _ _ h0 => switched_of_zero c _ h0⟩
  induction calls generalizing r with
  | nil => exact fun _ h => absurd h (List.not_mem_nil)
  | cons c calls ih =>
    have hc := exclusive_switch_mode c hr
    intro r' hr'
    rcases List.mem_append.1 hr' with hr' | hr'
    · exact hc.1 r' hr'
    · exact ih _ hc.2 r' hr'

/-- One line of FM is on. -/
def fmLive : Regs := Function.update (fun _ => I2C_PIN_CTL) FM_I2S_SD_MODE I2C_NORMAL

/-- A call for Bluetooth that is cut off after its first write. -/
def cutOff : Call := ⟨1, true, fun reg => reg = FM_I2S_SD_MODE⟩

theorem lines_exclusive_cut_off : Exclusive (Function.update fmLive FM_I2S_SD_MODE I2C_PIN_CTL) := by
  have hlive : Exclusive fmLive := by
    rw [exclusive_iff]
    refine .inl fun reg hreg => Function.update_of_ne ?_ _ _
    rintro rfl
    exact absurd hreg (by decide)
  exact (lines_exclusive [cutOff] fmLive hlive).1 _ (List.Mem.head _)

end Msm7x27a.Route.Pins
