import Msm7x27a.Lib.Bytes

/-!
# The rfkill device of Bluetooth

`bt_get_rfkill_state_path` reads the types of the rfkill devices, one after the other, and takes the
first that is `bluetooth`.  Its buffer is never cleared, and a read that fails passes the test of the
size, as -1 is the largest `size_t`: what earlier reads have left is then taken for the type.

`scan_iff` says exactly when the right device is found.
-/

namespace Msm7x27a.Bt

open Msm7x27a.Bytes

/-- `"bluetooth"`. -/
def bluetooth : List Byte := [0x62, 0x6c, 0x75, 0x65, 0x74, 0x6f, 0x6f, 0x74, 0x68]

/-- `sizeof(buf)`. -/
def bufSize : ℕ := 16

/-- What the type file of a device holds; `none` if it is opened but cannot be read. -/
abbrev TypeFile := Option (List Byte)

/-- The buffer after the read. -/
def afterRead (buf : ℕ → Byte) : TypeFile → ℕ → Byte
  | none => buf
  | some data => layered buf [data.take bufSize]

/-- `buf_size >= 9`. -/
def longEnough : TypeFile → Bool
  | none => true
  | some data => 9 ≤ (data.take bufSize).length

/-- `memcmp(buf, "bluetooth", 9) == 0`. -/
def holdsBluetooth (buf : ℕ → Byte) : Bool := (List.range 9).map buf = bluetooth

/-- The loop from the device `id` on: the devices that can be opened.  The first that cannot ends it. -/
def scan : (ℕ → Byte) → ℕ → List TypeFile → Option ℕ
  | _, _, [] => none
  | buf, id, file :: files =>
    let buf := afterRead buf file
    if longEnough file && holdsBluetooth buf then some id else scan buf (id + 1) files

/-- The device whose state is the power of Bluetooth; the buffer holds `junk` at first. -/
def bt_get_rfkill_state_path (junk : ℕ → Byte) (files : List TypeFile) : Option ℕ := scan junk 0 files

/-! ### The device that is found -/

/-- The type file can be read, and begins with `bluetooth`. -/
def isBluetooth : TypeFile → Bool
  | none => false
  | some data => bluetooth.isPrefixOf data

/-- What the reads before the device `id` have left in the buffer. -/
def stale (junk : ℕ → Byte) (files : List TypeFile) (id : ℕ) : ℕ → Byte :=
  layered junk ((files.take id).filterMap (·.map (List.take bufSize))).reverse

variable {buf : ℕ → Byte} {file : TypeFile} {files : List TypeFile}

theorem stale_succ (junk : ℕ → Byte) (file : TypeFile) (files : List TypeFile) (id : ℕ) :
    stale junk (file :: files) (id + 1) = stale (afterRead junk file) files id := by
  unfold stale
  rw [List.take_succ_cons]
  cases file with
  | none => rfl
  | some data =>
    have hreads : (some data :: files.take id).filterMap (·.map (List.take bufSize)) =
        data.take bufSize :: (files.take id).filterMap (·.map (List.take bufSize)) := rfl
    rw [hreads, List.reverse_cons, layered_append]
    rfl

/-- A type that is read is tested for what it is. -/
theorem tests_data (buf : ℕ → Byte) (data : List Byte) :
    (longEnough (some data) && holdsBluetooth (afterRead buf (some data))) = isBluetooth (some data) := by
  have hread : 9 ≤ (data.take bufSize).length →
      (List.range 9).map (layered buf [data.take bufSize]) = data.take 9 := by
    intro hlen
    rw [List.length_take] at hlen
    refine List.ext_getElem (by simp; omega) fun i hi _ => ?_
    rw [List.length_map, List.length_range] at hi
    have hi' : i < (data.take bufSize).length := by
      rw [List.length_take]
      omega
    rw [List.getElem_map, List.getElem_range, layered, List.getElem?_eq_getElem hi', Option.getD_some,
      List.getElem_take, List.getElem_take]
  rw [Bool.eq_iff_iff, Bool.and_eq_true_iff]
  unfold longEnough holdsBluetooth afterRead isBluetooth
  rw [List.isPrefixOf_iff_prefix, List.prefix_iff_eq_take, decide_eq_true_iff, decide_eq_true_iff]
  have hnine : bluetooth.length = 9 := rfl
  rw [hnine]
  constructor
  · rintro ⟨hlen, h⟩
    exact (h.symm.trans (hread hlen))
  · intro h
    have hlen : 9 ≤ (data.take bufSize).length := by
      have := congrArg List.length h
      rw [List.length_take, hnine] at this
      rw [List.length_take, bufSize]
      omega
    exact ⟨hlen, (hread hlen).trans h.symm⟩

/-- The loop from any device on. -/
theorem scan_iff_from (buf : ℕ → Byte) (n : ℕ) (files : List TypeFile) :
    scan buf n files = (files.findIdx? isBluetooth).map (n + ·) ↔
      ∀ id < (files.findIdx? isBluetooth).getD files.length, files[id]? = some none →
        holdsBluetooth (stale buf files id) = false := by
  induction files generalizing buf n with
  | nil => simp [scan]
  | cons file files ih =>
    -- past a device that is not taken
    have hnext : isBluetooth file = false →
        (scan (afterRead buf file) (n + 1) files = ((file :: files).findIdx? isBluetooth).map (n + ·) ↔
          ∀ id < (files.findIdx? isBluetooth).getD files.length,
            (file :: files)[id + 1]? = some none →
              holdsBluetooth (stale buf (file :: files) (id + 1)) = false) := by
      intro hfile
      have hmap : ((file :: files).findIdx? isBluetooth).map (n + ·) =
          (files.findIdx? isBluetooth).map (n + 1 + ·) := by
        rw [List.findIdx?_cons, if_neg (by simp [hfile]), Option.map_map]
        refine congrArg (fun f => Option.map f _) ?_
        funext k
        dsimp only [Function.comp_apply]
        omega
      rw [hmap, ih]
      simp only [List.getElem?_cons_succ, stale_succ]
    have hbound : isBluetooth file = false →
        ((file :: files).findIdx? isBluetooth).getD (file :: files).length =
          (files.findIdx? isBluetooth).getD files.length + 1 := by
      intro hfile
      rw [List.findIdx?_cons, if_neg (by simp [hfile])]
      cases files.findIdx? isBluetooth <;> rfl
    unfold scan
    dsimp only
    cases file with
    | some data =>
      rw [tests_data]
      rcases Bool.eq_false_or_eq_true (isBluetooth (some data)) with h | h
      · rw [if_pos h, List.findIdx?_cons, if_pos h]
        simp
      · rw [if_neg (by simp [h]), hnext h, hbound h]
        constructor
        · intro hall id hid
          cases id with
          | zero => exact fun e => by simp at e
          | succ id => exact hall id (by omega)
        · exact fun hall id hid => hall (id + 1) (by omega)
    | none =>
      have hfile : isBluetooth none = false := rfl
      have htest : (longEnough none && holdsBluetooth (afterRead buf none)) =
          holdsBluetooth (stale buf (none :: files) 0) := Bool.true_and _
      rw [htest, hbound hfile]
      rcases Bool.eq_false_or_eq_true (holdsBluetooth (stale buf (none :: files) 0)) with h | h
      · -- the device is taken for what was read before
        rw [if_pos h]
        refine iff_of_false (fun e => ?_) fun hall => ?_
        · obtain ⟨k, hk, e⟩ := Option.map_eq_some_iff.1 e.symm
          obtain rfl : k = 0 := by omega
          rw [List.findIdx?_cons, if_neg (by simp [hfile])] at hk
          obtain ⟨_, _, e⟩ := Option.map_eq_some_iff.1 hk
          omega
        · have := hall 0 (by omega) rfl
          rw [h] at this
          cases this
      · rw [if_neg (by simp [h]), hnext hfile]
        constructor
        · intro hall id hid
          cases id with
          | zero => exact fun _ => h
          | succ id => exact hall id (by omega)
        · exact fun hall id hid => hall (id + 1) (by omega)

/-- **The device of Bluetooth.** The first device whose type is `bluetooth` is found if and only if no
device before it cannot be read while the reads before have left `bluetooth` in the buffer. -/
theorem scan_iff (junk : ℕ → Byte) (files : List TypeFile) :
    bt_get_rfkill_state_path junk files = files.findIdx? isBluetooth ↔
      ∀ id < (files.findIdx? isBluetooth).getD files.length, files[id]? = some none →
        holdsBluetooth (stale junk files id) = false := by
  have hzero : (files.findIdx? isBluetooth).map (0 + ·) = files.findIdx? isBluetooth := by simp
  have hfrom := scan_iff_from junk 0 files
  rwa [hzero] at hfrom

/-- Two other types leave `bluetooth` in the buffer, and the third device cannot be read. -/
def misleading : List TypeFile :=
  [some [0x78, 0x6c, 0x75, 0x65, 0x74, 0x6f, 0x6f, 0x74, 0x68, 0x0a], some [0x62], none, some bluetooth]

-- the device that cannot be read is taken
example : bt_get_rfkill_state_path (fun _ => 0) misleading = some 2 := by decide +kernel

end Msm7x27a.Bt
