import Mathlib.Data.List.Basic
import Mathlib.Data.BitVec
import Mathlib.Logic.Function.Basic

/-!
# Bytes in memory

Memory from the start of a buffer on, with the addresses that have been written to.  A range of it is
read as a list; a store replaces one range and leaves the disjoint ones alone.  Records that carry
their size in front are read back from where their encoding lies.
-/

namespace Msm7x27a.Bytes

abbrev Byte := BitVec 8

structure Memory where
  byte : ℕ → Byte
  /-- The addresses written to, newest first. -/
  written : List ℕ := []

namespace Memory

/-- The `n` bytes from `a` on. -/
def slice (a n : ℕ) (m : Memory) : List Byte := (List.range' a n).map m.byte

/-- Stores a list of bytes from `a` on. -/
def store (a : ℕ) : List Byte → Memory → Memory
  | [], m => m
  | x :: xs, m => store (a + 1) xs ⟨Function.update m.byte a x, a :: m.written⟩

end Memory

variable {m : Memory} {a c n k : ℕ} {xs ys : List Byte}

/-! ### Slices -/

theorem length_slice (a n : ℕ) (m : Memory) : (m.slice a n).length = n := by
  unfold Memory.slice
  rw [List.length_map, List.length_range']

theorem slice_zero (a : ℕ) (m : Memory) : m.slice a 0 = [] := rfl

theorem slice_succ (a n : ℕ) (m : Memory) : m.slice a (n + 1) = m.byte a :: m.slice (a + 1) n := by
  unfold Memory.slice
  rw [List.range'_succ, List.map_cons]

theorem slice_add (a n k : ℕ) (m : Memory) : m.slice a (n + k) = m.slice a n ++ m.slice (a + n) k := by
  unfold Memory.slice
  rw [← List.range'_append_1, List.map_append]

/-- The parts of a slice that is known. -/
theorem slice_append (h : m.slice a (xs ++ ys).length = xs ++ ys) :
    m.slice a xs.length = xs ∧ m.slice (a + xs.length) ys.length = ys := by
  rw [List.length_append, slice_add] at h
  exact List.append_inj h (length_slice a xs.length m)

theorem slice_congr {m' : Memory} (h : ∀ i, a ≤ i → i < a + n → m'.byte i = m.byte i) :
    m'.slice a n = m.slice a n := by
  unfold Memory.slice
  refine List.map_congr_left fun i hi => ?_
  have hr := List.mem_range'_1.1 hi
  exact h i hr.1 hr.2

/-! ### Stores -/

theorem byte_store_of_disjoint (xs : List Byte) (m : Memory) {i : ℕ}
    (h : i < a ∨ a + xs.length ≤ i) : (m.store a xs).byte i = m.byte i := by
  induction xs generalizing a m with
  | nil => rfl
  | cons x xs ih =>
    rw [List.length_cons] at h
    unfold Memory.store
    rw [ih]
    · exact Function.update_of_ne (by omega) _ _
    · omega

/-- A range apart from the one that is stored. -/
theorem slice_store_of_disjoint (xs : List Byte) (m : Memory) (h : c + n ≤ a ∨ a + xs.length ≤ c) :
    (m.store a xs).slice c n = m.slice c n := by
  refine slice_congr fun i hi hlt => ?_
  apply byte_store_of_disjoint
  omega

/-- The range that is stored. -/
theorem slice_store (a : ℕ) (xs : List Byte) (m : Memory) :
    (m.store a xs).slice a xs.length = xs := by
  induction xs generalizing a m with
  | nil => rfl
  | cons x xs ih =>
    rw [List.length_cons, slice_succ]
    unfold Memory.store
    rw [ih, byte_store_of_disjoint _ _ (Or.inl (Nat.lt_succ_self a))]
    exact congrArg (· :: xs) (Function.update_self a x m.byte)

theorem byte_store (m : Memory) {i : ℕ} (h : i < xs.length) : (m.store a xs).byte (a + i) = xs[i] := by
  have hi := congrArg (·[i]?) (slice_store a xs m)
  have hr : (List.range' a xs.length)[i]? = some (a + i) := by
    rw [List.getElem?_range' h]
    simp
  simp only [Memory.slice, List.getElem?_map, hr, Option.map_some, List.getElem?_eq_getElem h] at hi
  exact Option.some.inj hi

theorem written_store (xs : List Byte) (m : Memory) {i : ℕ} (h : i ∈ (m.store a xs).written) :
    i ∈ m.written ∨ a ≤ i ∧ i < a + xs.length := by
  induction xs generalizing a m with
  | nil => exact Or.inl h
  | cons x xs ih =>
    rw [List.length_cons]
    unfold Memory.store at h
    rcases ih _ h with hm | hm
    · rcases List.mem_cons.1 hm with rfl | hm
      · exact Or.inr ⟨Nat.le_refl i, by omega⟩
      · exact Or.inl hm
    · exact Or.inr ⟨by omega, by omega⟩

/-- Nothing is written from `n` on. -/
def Memory.Within (n : ℕ) (m : Memory) : Prop := ∀ i ∈ m.written, i < n

theorem within_store (hm : m.Within n) (h : a + xs.length ≤ n) : (m.store a xs).Within n := by
  intro i hi
  rcases written_store xs m hi with hold | hnew
  · exact hm i hold
  · exact Nat.lt_of_lt_of_le hnew.2 h

/-! ### Layers -/

/-- The byte of the first layer that is long enough, and what lies under the layers if none is. -/
def layered (under : ℕ → Byte) : List (List Byte) → ℕ → Byte
  | [], i => under i
  | data :: older, i => data[i]?.getD (layered under older i)

theorem layered_append (under : ℕ → Byte) (newer older : List (List Byte)) :
    layered under (newer ++ older) = layered (layered under older) newer := by
  induction newer with
  | nil => rfl
  | cons data newer ih =>
    funext i
    rw [List.cons_append, layered, ih, layered]

/-- What is stored is a layer on those that lie there. -/
theorem layered_store {under : ℕ → Byte} {older : List (List Byte)} {i : ℕ}
    (h : m.byte (a + i) = layered under older i) :
    (m.store a xs).byte (a + i) = layered under (xs :: older) i := by
  by_cases hi : i < xs.length
  · rw [byte_store m hi, layered, List.getElem?_eq_getElem hi, Option.getD_some]
  · rw [byte_store_of_disjoint _ _ (.inr (by omega)), h, layered,
      List.getElem?_eq_none (Nat.not_lt.1 hi), Option.getD_none]

/-! ### Words, least byte first -/

def bytes16 (x : BitVec 16) : List Byte := [x.truncate 8, (x >>> 8).truncate 8]

def word16 : List Byte → BitVec 16
  | [lo, hi] => hi ++ lo
  | _ => 0

def bytes32 (x : BitVec 32) : List Byte :=
  bytes16 (x.truncate 16) ++ bytes16 ((x >>> 16).truncate 16)

theorem word16_bytes16 (x : BitVec 16) : word16 (bytes16 x) = x := by
  refine BitVec.eq_of_toNat_eq ?_
  show (((x >>> 8).truncate 8) ++ (x.truncate 8)).toNat = x.toNat
  rw [BitVec.toNat_append, ← Nat.shiftLeft_add_eq_or_of_lt (BitVec.isLt _), BitVec.toNat_setWidth,
    BitVec.toNat_setWidth, BitVec.toNat_ushiftRight, Nat.shiftLeft_eq, Nat.shiftRight_eq_div_pow]
  have hx := x.isLt
  omega

namespace Memory

def load16 (a : ℕ) (m : Memory) : BitVec 16 := word16 (m.slice a 2)

def store16 (a : ℕ) (x : BitVec 16) (m : Memory) : Memory := m.store a (bytes16 x)

end Memory

theorem load16_store16 (a : ℕ) (x : BitVec 16) (m : Memory) : (m.store16 a x).load16 a = x := by
  unfold Memory.load16 Memory.store16
  have hs := slice_store a (bytes16 x) m
  have hl : (bytes16 x).length = 2 := rfl
  rw [hl] at hs
  rw [hs, word16_bytes16]

theorem load16_store_of_disjoint (xs : List Byte) (m : Memory) (h : c + 2 ≤ a ∨ a + xs.length ≤ c) :
    (m.store a xs).load16 c = m.load16 c := by
  unfold Memory.load16
  rw [slice_store_of_disjoint xs m h]

/-! ### Records -/

/-- A record: its size, and its bytes. -/
def record (f : List Byte) : List Byte := bytes16 (BitVec.ofNat 16 f.length) ++ f

/-- Records laid end to end. -/
def layOut (fs : List (List Byte)) : List Byte := fs.flatMap record

/-- The `n` records that start at `a`. -/
def Memory.records (m : Memory) : ℕ → ℕ → List (List Byte)
  | _, 0 => []
  | a, n + 1 =>
    let size := (m.load16 a).toNat
    m.slice (a + 2) size :: m.records (a + 2 + size) n

theorem length_record (f : List Byte) : (record f).length = 2 + f.length := List.length_append

theorem layOut_append (fs gs : List (List Byte)) : layOut (fs ++ gs) = layOut fs ++ layOut gs :=
  List.flatMap_append

/-- Where the encoding of records lies, they are read. -/
theorem records_of_slice {fs : List (List Byte)} (hsize : ∀ f ∈ fs, f.length < 2 ^ 16)
    (h : m.slice a (layOut fs).length = layOut fs) (k : ℕ) :
    m.records a (fs.length + k) = fs ++ m.records (a + (layOut fs).length) k := by
  induction fs generalizing a with
  | nil =>
    have hk : ([] : List (List Byte)).length + k = k := Nat.zero_add k
    rw [hk]
    rfl
  | cons f fs ih =>
    have hcons : layOut (f :: fs) = record f ++ layOut fs := List.flatMap_cons
    rw [hcons] at h ⊢
    obtain ⟨hrec, hrest⟩ := slice_append h
    have hparts : m.slice a (bytes16 (BitVec.ofNat 16 f.length) ++ f).length =
        bytes16 (BitVec.ofNat 16 f.length) ++ f := hrec
    obtain ⟨hword, hf⟩ := slice_append hparts
    have hload : (m.load16 a).toNat = f.length := by
      unfold Memory.load16
      have hl : (bytes16 (BitVec.ofNat 16 f.length)).length = 2 := rfl
      rw [hl] at hword
      rw [hword, word16_bytes16, BitVec.toNat_ofNat]
      exact Nat.mod_eq_of_lt (hsize f List.mem_cons_self)
    have hn : (f :: fs).length + k = (fs.length + k) + 1 := by
      rw [List.length_cons]
      omega
    have htail := ih (fun g hg => hsize g (List.mem_cons_of_mem f hg)) hrest
    rw [length_record, ← Nat.add_assoc] at htail
    have hf' : m.slice (a + 2) f.length = f := hf
    rw [hn, Memory.records, hload, hf', htail, List.length_append, length_record, Nat.add_assoc a,
      Nat.add_assoc a]
    rfl

end Msm7x27a.Bytes
