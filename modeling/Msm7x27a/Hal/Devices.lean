import Msm7x27a.Lib.Bits
import Mathlib.Algebra.Group.Nat.Defs
import Mathlib.Data.List.Nodup

/-!
# Device masks of the two revisions of the HAL

`convert_audio_device` takes a mask apart bit by bit, from the highest one down, and looks each bit up
in the table of the devices.  In revision 2.0 an input device has `AUDIO_DEVICE_BIT_IN` besides its
own bit, so the flag is taken off first and is added to each bit for the comparison.
-/

namespace Msm7x27a.Hal

open Msm7x27a.Bits

/-- A mask of devices. -/
abbrev Mask := BitVec 32

def AUDIO_DEVICE_BIT_IN : Mask := 0x80000000

def AUDIO_DEVICE_NONE : Mask := 0

inductive Rev where
  | HAL_API_REV_1_0
  | HAL_API_REV_2_0
  deriving DecidableEq

/-- A row of the table. -/
structure Row where
  rev1 : Mask
  rev2 : Mask
  deriving DecidableEq

/-- The entry of a row in the column of a revision. -/
def Row.entry (r : Row) : Rev → Mask
  | .HAL_API_REV_1_0 => r.rev1
  | .HAL_API_REV_2_0 => r.rev2

/-- The devices of `audio_device_conv_table`. -/
abbrev Table := List Row

/-- The scan of the table for `cur_device`: what the first row with it is in the other revision. -/
def Table.lookup (table : Table) (from_rev to_rev : Rev) (cur_device : Mask) : Mask :=
  match table.find? (fun r => r.entry from_rev = cur_device) with
  | some r => r.entry to_rev
  | none => 0

/-- `31 - __builtin_clz(from_device)` -/
def highestBit (from_device : Mask) : ℕ := from_device.toNat.log2

/-- `(1 << i) | in_bit` -/
def curDevice (i : ℕ) (in_bit : Mask) : Mask := BitVec.twoPow 32 i ||| in_bit

/-- The `while` loop, `n` rounds of it at most: `none` if it has not ended by then. -/
def convertLoop (table : Table) (from_rev to_rev : Rev) (in_bit : Mask) : ℕ → Mask → Mask → Option Mask
  | n, from_device, to_device =>
    if from_device = 0 then some to_device
    else match n with
      | 0 => none
      | n + 1 =>
        let cur_device := curDevice (highestBit from_device) in_bit
        convertLoop table from_rev to_rev in_bit n (from_device &&& ~~~cur_device)
          (to_device ||| table.lookup from_rev to_rev cur_device)

/-- The flag of an input mask, which revision 1.0 does not have. -/
def inBit (from_rev : Rev) (from_device : Mask) : Mask :=
  match from_rev with
  | .HAL_API_REV_1_0 => 0
  | .HAL_API_REV_2_0 => from_device &&& AUDIO_DEVICE_BIT_IN

/-- The bits that the loop takes apart. -/
def deviceBits (from_rev : Rev) (from_device : Mask) : Mask :=
  match from_rev with
  | .HAL_API_REV_1_0 => from_device
  | .HAL_API_REV_2_0 => from_device &&& ~~~AUDIO_DEVICE_BIT_IN

/-- `convert_audio_device`, with at most `n` rounds of its loop. -/
def convert_audio_device (table : Table) (n : ℕ) (from_device : Mask) (from_rev to_rev : Rev) :
    Option Mask :=
  convertLoop table from_rev to_rev (inBit from_rev from_device) n (deviceBits from_rev from_device)
    AUDIO_DEVICE_NONE

/-- The union of the masks of some rows. -/
def union (rev : Rev) (rows : List Row) : Mask := rows.foldr (fun r m => r.entry rev ||| m) 0

/-! ### Single bits -/

variable {table : Table} {in_bit x : Mask} {i k n : ℕ}

theorem getLsbD_curDevice (hi : i < 32) (in_bit : Mask) (k : ℕ) :
    (curDevice i in_bit).getLsbD k = true ↔ k = i ∨ in_bit.getLsbD k = true := by
  unfold curDevice
  rw [BitVec.getLsbD_or, Bool.or_eq_true, BitVec.getLsbD_twoPow, Bool.and_eq_true, decide_eq_true_eq,
    decide_eq_true_eq]
  constructor
  · rintro (⟨_, rfl⟩ | h)
    · exact .inl rfl
    · exact .inr h
  · rintro (rfl | h)
    · exact .inl ⟨hi, rfl⟩
    · exact .inr h

theorem getLsbD_bitIn (k : ℕ) : AUDIO_DEVICE_BIT_IN.getLsbD k = true ↔ k = 31 := by
  have h : AUDIO_DEVICE_BIT_IN = BitVec.twoPow 32 31 := by decide
  rw [h, BitVec.getLsbD_twoPow, Bool.and_eq_true, decide_eq_true_eq, decide_eq_true_eq]
  constructor
  · exact fun h => h.2.symm
  · exact fun h => ⟨by decide, h.symm⟩

theorem getLsbD_union (rev : Rev) (rows : List Row) (k : ℕ) :
    (union rev rows).getLsbD k = true ↔ ∃ r ∈ rows, (r.entry rev).getLsbD k = true := by
  unfold union
  induction rows with
  | nil => simp
  | cons r rows ih =>
    rw [List.foldr_cons, BitVec.getLsbD_or, Bool.or_eq_true, ih]
    simp

theorem highestBit_lt (hx : x ≠ 0) : highestBit x < 32 := by
  unfold highestBit
  rw [Nat.log2_lt (by simpa [← BitVec.toNat_inj] using hx)]
  exact x.isLt

/-- The highest bit is set, and no higher one. -/
theorem getLsbD_highestBit (hx : x ≠ 0) : x.getLsbD (highestBit x) = true :=
  Nat.testBit_log2 (by simpa [← BitVec.toNat_inj] using hx)

theorem le_highestBit (h : x.getLsbD k = true) : k ≤ highestBit x := by
  by_contra hk
  unfold highestBit at hk
  have hlt : x.toNat < 2 ^ k :=
    Nat.lt_of_lt_of_le Nat.lt_log2_self (Nat.pow_le_pow_right (by decide) (by omega))
  have hbit : x.getLsbD k = false := Nat.testBit_lt_two_pow hlt
  rw [hbit] at h
  cases h

/-! ### What the loop makes of a mask -/

/-- The bits that are left after a round: all but the highest one, and the flag. -/
theorem getLsbD_clear (hx : x ≠ 0) (hin : x &&& in_bit = 0) (k : ℕ) :
    (x &&& ~~~(curDevice (highestBit x) in_bit)).getLsbD k = true ↔
      x.getLsbD k = true ∧ k ≠ highestBit x := by
  rw [BitVec.getLsbD_and, Bool.and_eq_true, BitVec.getLsbD_not, Bool.and_eq_true, Bool.not_eq_true',
    decide_eq_true_eq, ← Bool.not_eq_true, getLsbD_curDevice (highestBit_lt hx), not_or]
  constructor
  · exact fun ⟨hk, _, hne, _⟩ => ⟨hk, hne⟩
  · intro ⟨hk, hne⟩
    refine ⟨hk, BitVec.lt_of_getLsbD hk, hne, fun hk' => ?_⟩
    have hbit : (x &&& in_bit).getLsbD k = true := by rw [BitVec.getLsbD_and, hk, hk']; rfl
    rw [hin] at hbit
    simp at hbit

/-- A round leaves less than the bit that it has taken. -/
theorem clear_lt (hx : x ≠ 0) (hin : x &&& in_bit = 0) :
    (x &&& ~~~(curDevice (highestBit x) in_bit)).toNat < 2 ^ highestBit x := by
  apply Nat.lt_pow_two_of_testBit
  intro k hk
  have hbit : ¬ (x &&& ~~~(curDevice (highestBit x) in_bit)).getLsbD k = true := by
    rw [getLsbD_clear hx hin]
    rintro ⟨hk', hne⟩
    have hle := le_highestBit hk'
    omega
  exact Bool.not_eq_true _ ▸ hbit

theorem clear_and (in_bit : Mask) (hin : x &&& in_bit = 0) (c : Mask) : x &&& ~~~c &&& in_bit = 0 := by
  calc x &&& ~~~c &&& in_bit = x &&& in_bit &&& ~~~c := by
        rw [BitVec.and_assoc, BitVec.and_comm (~~~c), ← BitVec.and_assoc]
    _ = 0 := by
        rw [hin]
        exact BitVec.zero_and

/-- **The loop ends** after as many rounds as the mask has places, and adds what the table has for each
bit of the mask. -/
theorem convertLoop_spec (table : Table) (from_rev to_rev : Rev) (hin : x &&& in_bit = 0)
    (hn : x.toNat < 2 ^ n) (y : Mask) :
    ∃ z, convertLoop table from_rev to_rev in_bit n x y = some z ∧ ∀ k, z.getLsbD k = true ↔
      y.getLsbD k = true ∨ ∃ i, x.getLsbD i = true ∧
        (table.lookup from_rev to_rev (curDevice i in_bit)).getLsbD k = true := by
  induction n generalizing x y with
  | zero =>
    have hx : x = 0 := by
      apply BitVec.eq_of_toNat_eq
      simpa using hn
    refine ⟨y, ?_, fun k => ?_⟩
    · unfold convertLoop
      rw [if_pos hx]
    · simp [hx]
  | succ n ih =>
    by_cases hx : x = 0
    · refine ⟨y, ?_, fun k => ?_⟩
      · unfold convertLoop
        rw [if_pos hx]
      · simp [hx]
    · have hhigh : highestBit x < n + 1 := by
        unfold highestBit
        exact (Nat.log2_lt (by simpa [← BitVec.toNat_inj] using hx)).2 hn
      have hless : (x &&& ~~~(curDevice (highestBit x) in_bit)).toNat < 2 ^ n :=
        Nat.lt_of_lt_of_le (clear_lt hx hin) (Nat.pow_le_pow_right (by decide) (by omega))
      obtain ⟨z, hz, hbits⟩ := ih (clear_and in_bit hin _) hless
        (y ||| table.lookup from_rev to_rev (curDevice (highestBit x) in_bit))
      refine ⟨z, ?_, fun k => ?_⟩
      · unfold convertLoop
        rw [if_neg hx]
        exact hz
      · rw [hbits, BitVec.getLsbD_or, Bool.or_eq_true, or_assoc]
        apply or_congr_right
        constructor
        · rintro (h | ⟨i, hi, h⟩)
          · exact ⟨_, getLsbD_highestBit hx, h⟩
          · exact ⟨i, ((getLsbD_clear hx hin i).1 hi).1, h⟩
        · rintro ⟨i, hi, h⟩
          by_cases he : i = highestBit x
          · exact .inl (he ▸ h)
          · exact .inr ⟨i, (getLsbD_clear hx hin i).2 ⟨hi, he⟩, h⟩

/-- The flag is not among the bits that the loop takes apart. -/
theorem deviceBits_and_inBit (rev : Rev) (x : Mask) : deviceBits rev x &&& inBit rev x = 0 := by
  cases rev with
  | HAL_API_REV_1_0 => exact BitVec.and_zero
  | HAL_API_REV_2_0 =>
    change x &&& ~~~AUDIO_DEVICE_BIT_IN &&& (x &&& AUDIO_DEVICE_BIT_IN) = 0
    apply BitVec.eq_of_getLsbD_eq
    intro i hi
    rw [BitVec.getLsbD_and, BitVec.getLsbD_and, BitVec.getLsbD_and, BitVec.getLsbD_not]
    cases AUDIO_DEVICE_BIT_IN.getLsbD i <;> simp

/-- What `convert_audio_device` returns, with 32 rounds or more. -/
theorem convert_spec (table : Table) (hn : 32 ≤ n) (x : Mask) (from_rev to_rev : Rev) :
    ∃ z, convert_audio_device table n x from_rev to_rev = some z ∧ ∀ k, z.getLsbD k = true ↔
      ∃ i, (deviceBits from_rev x).getLsbD i = true ∧
        (table.lookup from_rev to_rev (curDevice i (inBit from_rev x))).getLsbD k = true := by
  have hlt : (deviceBits from_rev x).toNat < 2 ^ n :=
    Nat.lt_of_lt_of_le (deviceBits from_rev x).isLt (Nat.pow_le_pow_right (by decide) hn)
  obtain ⟨z, hz, hbits⟩ := convertLoop_spec table from_rev to_rev (deviceBits_and_inBit from_rev x) hlt
    AUDIO_DEVICE_NONE
  refine ⟨z, hz, fun k => ?_⟩
  rw [hbits]
  simp [AUDIO_DEVICE_NONE]

/-! ### Tables of distinct devices -/

/-- In revision 2.0 an output device is one bit that is not the flag. -/
def Row.IsOutput (r : Row) : Prop := OneBit r.rev2 ∧ r.rev2 ≠ AUDIO_DEVICE_BIT_IN

/-- In revision 2.0 an input device is such a bit and the flag. -/
def Row.IsInput (r : Row) : Prop :=
  ∃ b, OneBit b ∧ b ≠ AUDIO_DEVICE_BIT_IN ∧ r.rev2 = AUDIO_DEVICE_BIT_IN ||| b

/-- What the headers say of the devices in the table. -/
structure Table.Sound (table : Table) : Prop where
  distinct : ∀ rev, (table.map (·.entry rev)).Nodup
  oneBit : ∀ r ∈ table, OneBit r.rev1
  kind : ∀ r ∈ table, r.IsOutput ∨ r.IsInput

variable {rows : List Row} {from_rev to_rev : Rev}

/-- A device of the table is found in its own row. -/
theorem lookup_entry (h : (table.map (·.entry from_rev)).Nodup) {r : Row} (hr : r ∈ table) :
    table.lookup from_rev to_rev (r.entry from_rev) = r.entry to_rev := by
  have hfound : table.find? (fun r' => r'.entry from_rev = r.entry from_rev) = some r := by
    cases hf : table.find? (fun r' => r'.entry from_rev = r.entry from_rev) with
    | none => simpa using List.find?_eq_none.1 hf r hr
    | some r' =>
      have hsame : r'.entry from_rev = r.entry from_rev := by simpa using List.find?_some hf
      rw [List.inj_on_of_nodup_map h (List.mem_of_find?_eq_some hf) hr hsame]
  unfold Table.lookup
  rw [hfound]

/-- What is in no row stands for no device. -/
theorem lookup_none {cur_device : Mask} (h : ∀ r ∈ table, r.entry from_rev ≠ cur_device) :
    table.lookup from_rev to_rev cur_device = 0 := by
  have hnone : table.find? (fun r => r.entry from_rev = cur_device) = none := by
    rw [List.find?_eq_none]
    intro r hr
    simpa using h r hr
  unfold Table.lookup
  rw [hnone]

/-- If the bits of a mask stand for some rows, it is converted to the union of these rows. -/
theorem convert_rows (hn : 32 ≤ n) (hdistinct : (table.map (·.entry from_rev)).Nodup)
    (hrows : ∀ r ∈ rows, r ∈ table)
    (hbits : ∀ i, (deviceBits from_rev x).getLsbD i = true →
      ∃ r ∈ rows, r.entry from_rev = curDevice i (inBit from_rev x))
    (hdevices : ∀ r ∈ rows, ∃ i, (deviceBits from_rev x).getLsbD i = true ∧
      r.entry from_rev = curDevice i (inBit from_rev x)) :
    convert_audio_device table n x from_rev to_rev = some (union to_rev rows) := by
  obtain ⟨z, hz, hspec⟩ := convert_spec table hn x from_rev to_rev
  rw [hz, Option.some.injEq]
  apply BitVec.eq_of_getLsbD_eq
  intro k _
  rw [Bool.eq_iff_iff, hspec, getLsbD_union]
  constructor
  · rintro ⟨i, hi, hk⟩
    obtain ⟨r, hr, he⟩ := hbits i hi
    rw [← he, lookup_entry hdistinct (hrows r hr)] at hk
    exact ⟨r, hr, hk⟩
  · rintro ⟨r, hr, hk⟩
    obtain ⟨i, hi, he⟩ := hdevices r hr
    refine ⟨i, hi, ?_⟩
    rw [← he, lookup_entry hdistinct (hrows r hr)]
    exact hk

/-! ### The masks of some rows -/

theorem getLsbD_oneBit {b : Mask} (hb : OneBit b) : ∃ j < 32, b = BitVec.twoPow 32 j ∧
    ∀ k, b.getLsbD k = true ↔ k = j := by
  obtain ⟨j, hj, rfl⟩ := hb
  refine ⟨j, hj, rfl, fun k => ?_⟩
  rw [BitVec.getLsbD_twoPow, Bool.and_eq_true, decide_eq_true_eq, decide_eq_true_eq]
  constructor
  · exact fun h => h.2.symm
  · exact fun h => ⟨hj, h.symm⟩

theorem ne_31 {j : ℕ} (h : BitVec.twoPow 32 j ≠ AUDIO_DEVICE_BIT_IN) : j ≠ 31 := by
  rintro rfl
  exact h (by decide)

/-- In revision 1.0 the bits of the mask are the devices. -/
theorem convert_rev1 (hn : 32 ≤ n) (h : table.Sound) (hrows : ∀ r ∈ rows, r ∈ table) :
    convert_audio_device table n (union .HAL_API_REV_1_0 rows) .HAL_API_REV_1_0 to_rev =
      some (union to_rev rows) := by
  have hcur : ∀ j, curDevice j 0 = BitVec.twoPow 32 j := fun j => BitVec.or_zero
  refine convert_rows hn (h.distinct _) hrows (fun i hi => ?_) fun r hr => ?_
  · obtain ⟨r, hr, hi⟩ := (getLsbD_union _ _ _).1 hi
    obtain ⟨j, _, hj, hbits⟩ := getLsbD_oneBit (h.oneBit r (hrows r hr))
    obtain rfl := (hbits i).1 hi
    exact ⟨r, hr, hj.trans (hcur i).symm⟩
  · obtain ⟨j, _, hj, hbits⟩ := getLsbD_oneBit (h.oneBit r (hrows r hr))
    exact ⟨j, (getLsbD_union _ _ _).2 ⟨r, hr, (hbits j).2 rfl⟩, hj.trans (hcur j).symm⟩

/-- Taking the flag off leaves the other bits. -/
theorem getLsbD_deviceBits2 (x : Mask) (k : ℕ) :
    (deviceBits .HAL_API_REV_2_0 x).getLsbD k = true ↔ x.getLsbD k = true ∧ k ≠ 31 := by
  change (x &&& ~~~AUDIO_DEVICE_BIT_IN).getLsbD k = true ↔ _
  rw [BitVec.getLsbD_and, Bool.and_eq_true, BitVec.getLsbD_not, Bool.and_eq_true, Bool.not_eq_true',
    decide_eq_true_eq, ← Bool.not_eq_true, getLsbD_bitIn]
  constructor
  · exact fun ⟨hk, _, hne⟩ => ⟨hk, hne⟩
  · exact fun ⟨hk, hne⟩ => ⟨hk, BitVec.lt_of_getLsbD hk, hne⟩

/-- The flag of a mask is there or not. -/
theorem inBit2 (x : Mask) : inBit .HAL_API_REV_2_0 x =
    if x.getLsbD 31 = true then AUDIO_DEVICE_BIT_IN else 0 := by
  apply BitVec.eq_of_getLsbD_eq
  intro k _
  change (x &&& AUDIO_DEVICE_BIT_IN).getLsbD k = _
  rw [Bool.eq_iff_iff, BitVec.getLsbD_and, Bool.and_eq_true, getLsbD_bitIn]
  split
  next h =>
    rw [getLsbD_bitIn]
    constructor
    · exact fun hk => hk.2
    · rintro rfl
      exact ⟨h, rfl⟩
  next h =>
    constructor
    · rintro ⟨hk, rfl⟩
      exact absurd hk h
    · intro hk
      simp at hk

/-- In revision 2.0 the bits of a mask of output devices are the devices. -/
theorem convert_outputs (hn : 32 ≤ n) (h : table.Sound) (hrows : ∀ r ∈ rows, r ∈ table)
    (hout : ∀ r ∈ rows, r.IsOutput) :
    convert_audio_device table n (union .HAL_API_REV_2_0 rows) .HAL_API_REV_2_0 to_rev =
      some (union to_rev rows) := by
  have hbit : ∀ r ∈ rows, ∃ j, j ≠ 31 ∧ r.rev2 = BitVec.twoPow 32 j ∧
      ∀ k, r.rev2.getLsbD k = true ↔ k = j := by
    intro r hr
    obtain ⟨hone, hne⟩ := hout r hr
    obtain ⟨j, _, hj, hbits⟩ := getLsbD_oneBit hone
    exact ⟨j, ne_31 (hj ▸ hne), hj, hbits⟩
  have hin : inBit .HAL_API_REV_2_0 (union .HAL_API_REV_2_0 rows) = 0 := by
    rw [inBit2, if_neg]
    rw [getLsbD_union]
    rintro ⟨r, hr, h31⟩
    obtain ⟨j, hne, _, hbits⟩ := hbit r hr
    exact hne ((hbits 31).1 h31).symm
  have hcur : ∀ j, curDevice j 0 = BitVec.twoPow 32 j := fun j => BitVec.or_zero
  refine convert_rows hn (h.distinct _) hrows (fun i hi => ?_) fun r hr => ?_
  · rw [getLsbD_deviceBits2, getLsbD_union] at hi
    obtain ⟨⟨r, hr, hi⟩, _⟩ := hi
    obtain ⟨j, _, hj, hbits⟩ := hbit r hr
    obtain rfl := (hbits i).1 hi
    refine ⟨r, hr, ?_⟩
    rw [hin, hcur]
    exact hj
  · obtain ⟨j, hne, hj, hbits⟩ := hbit r hr
    refine ⟨j, ?_, ?_⟩
    · rw [getLsbD_deviceBits2, getLsbD_union]
      exact ⟨⟨r, hr, (hbits j).2 rfl⟩, hne⟩
    · rw [hin, hcur]
      exact hj

/-- In revision 2.0 the bits of a mask of input devices are the devices, without the flag. -/
theorem convert_inputs (hn : 32 ≤ n) (h : table.Sound) (hrows : ∀ r ∈ rows, r ∈ table)
    (hinput : ∀ r ∈ rows, r.IsInput) :
    convert_audio_device table n (union .HAL_API_REV_2_0 rows) .HAL_API_REV_2_0 to_rev =
      some (union to_rev rows) := by
  have hbit : ∀ r ∈ rows, ∃ j, j ≠ 31 ∧ r.rev2 = BitVec.twoPow 32 j ||| AUDIO_DEVICE_BIT_IN ∧
      ∀ k, r.rev2.getLsbD k = true ↔ k = 31 ∨ k = j := by
    intro r hr
    obtain ⟨b, hone, hne, he⟩ := hinput r hr
    obtain ⟨j, _, hj, hbits⟩ := getLsbD_oneBit hone
    refine ⟨j, ne_31 (hj ▸ hne), ?_, fun k => ?_⟩
    · rw [he, hj, BitVec.or_comm]
    · rw [he, BitVec.getLsbD_or, Bool.or_eq_true, getLsbD_bitIn, hbits]
  have hin : ∀ r ∈ rows,
      inBit .HAL_API_REV_2_0 (union .HAL_API_REV_2_0 rows) = AUDIO_DEVICE_BIT_IN := by
    intro r hr
    obtain ⟨j, _, _, hbits⟩ := hbit r hr
    rw [inBit2, if_pos]
    exact (getLsbD_union _ _ _).2 ⟨r, hr, (hbits 31).2 (.inl rfl)⟩
  refine convert_rows hn (h.distinct _) hrows (fun i hi => ?_) fun r hr => ?_
  · rw [getLsbD_deviceBits2, getLsbD_union] at hi
    obtain ⟨⟨r, hr, hi⟩, hne⟩ := hi
    obtain ⟨j, _, hj, hbits⟩ := hbit r hr
    obtain rfl := ((hbits i).1 hi).resolve_left hne
    refine ⟨r, hr, ?_⟩
    rw [hin r hr]
    exact hj
  · obtain ⟨j, hne, hj, hbits⟩ := hbit r hr
    refine ⟨j, ?_, ?_⟩
    · rw [getLsbD_deviceBits2, getLsbD_union]
      exact ⟨⟨r, hr, (hbits j).2 (.inr rfl)⟩, hne⟩
    · rw [hin r hr]
      exact hj

/-! ### Bits that are in no row -/

theorem getLsbD_deviceBits_or (rev : Rev) (x y : Mask) (k : ℕ) :
    (deviceBits rev (x ||| y)).getLsbD k = true ↔
      (deviceBits rev x).getLsbD k = true ∨ (deviceBits rev y).getLsbD k = true := by
  cases rev with
  | HAL_API_REV_1_0 =>
    change (x ||| y).getLsbD k = true ↔ x.getLsbD k = true ∨ y.getLsbD k = true
    rw [BitVec.getLsbD_or, Bool.or_eq_true]
  | HAL_API_REV_2_0 =>
    rw [getLsbD_deviceBits2, getLsbD_deviceBits2, getLsbD_deviceBits2, BitVec.getLsbD_or,
      Bool.or_eq_true, or_and_right]

theorem getLsbD_of_deviceBits {rev : Rev} {y : Mask} (h : (deviceBits rev y).getLsbD k = true) :
    y.getLsbD k = true := by
  cases rev with
  | HAL_API_REV_1_0 => exact h
  | HAL_API_REV_2_0 => exact ((getLsbD_deviceBits2 y k).1 h).1

theorem inBit_or {rev : Rev} {y : Mask}
    (hflag : rev = .HAL_API_REV_2_0 → y &&& AUDIO_DEVICE_BIT_IN = 0) (x : Mask) :
    inBit rev (x ||| y) = inBit rev x := by
  cases rev with
  | HAL_API_REV_1_0 => rfl
  | HAL_API_REV_2_0 => exact or_and_of_disjoint (hflag rfl)

/-- Bits that are in no row do not matter, but the flag does. -/
theorem convert_ignores (hn : 32 ≤ n) {y : Mask} (hy : ∀ r ∈ table, r.entry from_rev &&& y = 0)
    (hflag : from_rev = .HAL_API_REV_2_0 → y &&& AUDIO_DEVICE_BIT_IN = 0) (x : Mask) :
    convert_audio_device table n (x ||| y) from_rev to_rev =
      convert_audio_device table n x from_rev to_rev := by
  obtain ⟨z, hz, hspec⟩ := convert_spec table hn x from_rev to_rev
  obtain ⟨z', hz', hspec'⟩ := convert_spec table hn (x ||| y) from_rev to_rev
  -- a row for a bit of `y` would have that bit
  have hnone : ∀ i, y.getLsbD i = true → ∀ in_bit : Mask,
      table.lookup from_rev to_rev (curDevice i in_bit) = 0 := by
    intro i hi in_bit
    apply lookup_none
    intro r hr he
    have hbit : (r.entry from_rev &&& y).getLsbD i = true := by
      rw [he, BitVec.getLsbD_and, hi, Bool.and_true, getLsbD_curDevice (BitVec.lt_of_getLsbD hi)]
      exact .inl rfl
    rw [hy r hr] at hbit
    simp at hbit
  rw [hz, hz', Option.some.injEq]
  apply BitVec.eq_of_getLsbD_eq
  intro k _
  rw [Bool.eq_iff_iff, hspec, hspec', inBit_or hflag]
  constructor
  · rintro ⟨i, hi, hk⟩
    rcases (getLsbD_deviceBits_or _ _ _ _).1 hi with hi | hi
    · exact ⟨i, hi, hk⟩
    · rw [hnone i (getLsbD_of_deviceBits hi)] at hk
      simp at hk
  · rintro ⟨i, hi, hk⟩
    exact ⟨i, (getLsbD_deviceBits_or _ _ _ _).2 (.inl hi), hk⟩

/-- **Device masks survive translation.** The masks of output devices or of input devices are
translated device by device in both directions, the translation ends for every mask, and it ignores
bits that are in no row other than the flag of input devices. -/
theorem devices_survive (table : Table) (n : ℕ) (h : table.Sound) (hn : 32 ≤ n) :
    (∀ rows : List Row, (∀ r ∈ rows, r ∈ table) →
      (∀ r ∈ rows, r.IsOutput) ∨ (∀ r ∈ rows, r.IsInput) →
        convert_audio_device table n (union .HAL_API_REV_2_0 rows) .HAL_API_REV_2_0 .HAL_API_REV_1_0 =
            some (union .HAL_API_REV_1_0 rows) ∧
          convert_audio_device table n (union .HAL_API_REV_1_0 rows) .HAL_API_REV_1_0 .HAL_API_REV_2_0 =
            some (union .HAL_API_REV_2_0 rows)) ∧
      ∀ (x : Mask) (from_rev to_rev : Rev),
        (∃ z, convert_audio_device table n x from_rev to_rev = some z) ∧
          ∀ y, (∀ r ∈ table, r.entry from_rev &&& y = 0) →
            (from_rev = .HAL_API_REV_2_0 → y &&& AUDIO_DEVICE_BIT_IN = 0) →
              convert_audio_device table n (x ||| y) from_rev to_rev =
                convert_audio_device table n x from_rev to_rev := by
  constructor
  · intro rows hrows hkind
    refine ⟨?_, convert_rev1 hn h hrows⟩
    rcases hkind with hout | hin
    · exact convert_outputs hn h hrows hout
    · exact convert_inputs hn h hrows hin
  · intro x from_rev to_rev
    obtain ⟨z, hz, _⟩ := convert_spec table hn x from_rev to_rev
    exact ⟨⟨z, hz⟩, fun y hy hflag => convert_ignores hn hy hflag x⟩

/-- An output device and two input devices. -/
def threeDevices : Table := [⟨1, 1⟩, ⟨0x10000, 0x80000004⟩, ⟨0x40000, 0x80000010⟩]

theorem threeDevices_sound : threeDevices.Sound := by
  refine ⟨fun rev => ?_, ?_, ?_⟩
  · cases rev <;> decide
  · decide
  · intro r hr
    simp only [threeDevices, List.mem_cons, List.not_mem_nil, or_false] at hr
    rcases hr with rfl | rfl | rfl
    · exact .inl ⟨⟨0, by decide, by decide⟩, by decide⟩
    · exact .inr ⟨4, ⟨2, by decide, by decide⟩, by decide, by decide⟩
    · exact .inr ⟨0x10, ⟨4, by decide, by decide⟩, by decide, by decide⟩

/-- The rows of both microphones. -/
def microphones : List Row := [⟨0x10000, 0x80000004⟩, ⟨0x40000, 0x80000010⟩]

theorem microphones_survive :
    convert_audio_device threeDevices 32 (union .HAL_API_REV_2_0 microphones)
        .HAL_API_REV_2_0 .HAL_API_REV_1_0 = some (union .HAL_API_REV_1_0 microphones) ∧
      convert_audio_device threeDevices 32 (union .HAL_API_REV_1_0 microphones)
        .HAL_API_REV_1_0 .HAL_API_REV_2_0 = some (union .HAL_API_REV_2_0 microphones) := by
  refine (devices_survive threeDevices 32 threeDevices_sound (Nat.le_refl _)).1 microphones (by decide)
    (.inr fun r hr => ?_)
  simp only [microphones, List.mem_cons, List.not_mem_nil, or_false] at hr
  rcases hr with rfl | rfl
  · exact ⟨4, ⟨2, by decide, by decide⟩, by decide, by decide⟩
  · exact ⟨0x10, ⟨4, by decide, by decide⟩, by decide, by decide⟩

/-- In a table without input devices the flag is in no row, and is not ignored. -/
theorem flag_not_ignored :
    ¬ ∀ (table : Table), table.Sound → ∀ (n : ℕ), 32 ≤ n → ∀ (x y : Mask) (from_rev to_rev : Rev),
      (∀ r ∈ table, r.entry from_rev &&& y = 0) →
        convert_audio_device table n (x ||| y) from_rev to_rev =
          convert_audio_device table n x from_rev to_rev := by
  intro h
  have hsound : Table.Sound [⟨1, 1⟩] := by
    refine ⟨fun rev => ?_, by decide, ?_⟩
    · cases rev <;> decide
    · intro r hr
      rw [List.mem_singleton.1 hr]
      exact .inl ⟨⟨0, by decide, by decide⟩, by decide⟩
  have heq := h [⟨1, 1⟩] hsound 32 (Nat.le_refl _) 1 AUDIO_DEVICE_BIT_IN .HAL_API_REV_2_0
    .HAL_API_REV_1_0 (by decide)
  exact absurd heq (by decide)

end Msm7x27a.Hal
