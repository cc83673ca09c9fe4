import Msm7x27a.Filter.Stores

/-!
# Stores within the filter tables

A record `D` says itself how many bands and how many values of the buffer follow, and nothing compares
these numbers with the sizes of the arrays.  As each store takes a token, the record stays within the
arrays exactly if the numbers fit, or if the line ends before.  All other lines stay within.
-/

namespace Msm7x27a.Filter

open Msm7x27a.Cells Msm7x27a.Scan

variable {P : Store → Prop} {audioeq : Option EqCal} {d : ℕ}

/-! ### The cells of a record `D` -/

/-- A band of a record `D` and then its next. -/
def bandCells (d num_bands : ℕ) : List Cell :=
  (List.range num_bands).flatMap fun i => (List.range 10).map fun j => .mbadrc_cfg d (.adrc_band i j)

def bufferCells (d n : ℕ) : List Cell := (List.range n).map fun i => .mbadrc_cfg d (.ext_buf i)

/-- The cells after `ext_buf_size`. -/
def restCells (d num_bands ext_buf_size : ℕ) : List Cell :=
  [.mbadrc_cfg d .ext_partition, .mbadrc_cfg d .ext_buf_msw, .mbadrc_cfg d .ext_buf_lsw] ++
    (bandCells d num_bands ++ (bufferCells d (ext_buf_size / 2) ++ [.mbadrc_flag d]))

/-- The cells that a record `D` stores its fields to, in order. -/
def mbadrcCells (d num_bands ext_buf_size : ℕ) : List Cell :=
  [.mbadrc_cfg d .num_bands, .mbadrc_cfg d .down_samp_level, .mbadrc_cfg d .adrc_delay,
    .mbadrc_cfg d .ext_buf_size] ++ restCells d num_bands ext_buf_size

/-- A field is stored to the cell. -/
def asField (c : Cell) (p : List Char) : Store := .set c (uint16 p)

theorem reads_strtok_store (c : Cell) : Reads (do strtok; store c) [asField c] :=
  reads_next_put einval _

theorem reads_field {c : Cell} {m : Part Unit} {cs : List (List Char → Store)} (h : Reads m cs) :
    Reads (do strtok; store c; m) (asField c :: cs) := by
  have hassoc := bind_assoc strtok (fun _ => store c) fun _ => m
  rw [← hassoc]
  exact (reads_strtok_store c).bind h

theorem reads_bands (d num_bands : ℕ) :
    Reads (loop num_bands fun i => loop 10 fun j => do
        strtok
        store (.mbadrc_cfg d (.adrc_band i j)))
      ((bandCells d num_bands).map asField) := by
  unfold bandCells
  rw [List.map_flatMap]
  apply reads_loop
  intro i
  rw [List.map_map, List.map_eq_flatMap]
  exact reads_loop fun j => reads_strtok_store _

theorem reads_buffer (d n : ℕ) :
    Reads (loop n fun i => do
        strtok
        store (.mbadrc_cfg d (.ext_buf i)))
      ((bufferCells d n).map asField) := by
  unfold bufferCells
  rw [List.map_map, List.map_eq_flatMap]
  exact reads_loop fun i => reads_strtok_store _

theorem reads_mbadrcRest (d num_bands ext_buf_size : ℕ) :
    Reads (mbadrcRest d num_bands ext_buf_size) ((restCells d num_bands ext_buf_size).map asField) := by
  unfold mbadrcRest restCells
  rw [List.map_append, List.map_append, List.map_append]
  have hbuffer := (reads_buffer d (ext_buf_size / 2)).bind (reads_strtok_store (.mbadrc_flag d))
  exact reads_field (reads_field (reads_field ((reads_bands d num_bands).bind hbuffer)))

/-- **The stores of a record `D`.** Its fields go to its cells, as far as there are tokens. -/
theorem run_mbadrcRecord (p : List Char) (ts : List (List Char)) :
    ((mbadrcRecord d).run ⟨p, ts⟩).1 = .set (.mbadrc_filter_exists d) 1 ::
      List.zipWith asField (mbadrcCells d (uint16 (ts.getD 2 [])) (uint16 (ts.getD 5 []))) (ts.drop 2) := by
  -- with less than six tokens it ends before the rest
  rcases ts with _ | ⟨t0, _ | ⟨t1, _ | ⟨t2, _ | ⟨t3, _ | ⟨t4, _ | ⟨t5, ts⟩⟩⟩⟩⟩⟩
  · rfl
  · rfl
  · rfl
  · rfl
  · rfl
  · rfl
  · have hrest := (reads_mbadrcRest d (uint16 t2) (uint16 t5)).out ⟨t5, ts⟩
    rw [List.zipWith_map_left] at hrest
    calc ((mbadrcRecord d).run ⟨p, t0 :: t1 :: t2 :: t3 :: t4 :: t5 :: ts⟩).1
        = [.set (.mbadrc_filter_exists d) 1, asField (.mbadrc_cfg d .num_bands) t2,
            asField (.mbadrc_cfg d .down_samp_level) t3, asField (.mbadrc_cfg d .adrc_delay) t4,
            asField (.mbadrc_cfg d .ext_buf_size) t5] ++
          ((mbadrcRest d (uint16 t2) (uint16 t5)).run ⟨t5, ts⟩).1 := rfl
      _ = _ := by
        rw [hrest]
        rfl

/-! ### Which cells are inside -/

/-- The stores go to as many cells as there are tokens. -/
theorem inside_zipWith (cells : List Cell) (ts : List (List Char)) :
    (∀ w ∈ List.zipWith asField cells ts, w.cell.inside = true) ↔
      ∀ c ∈ cells.take ts.length, c.inside = true := by
  induction cells generalizing ts with
  | nil => simp
  | cons c cells ih =>
    cases ts with
    | nil => simp
    | cons t ts =>
      rw [List.zipWith_cons_cons, List.length_cons, List.take_succ_cons, List.forall_mem_cons,
        List.forall_mem_cons, ih]
      rfl

theorem inside_take_append (cells cells' : List Cell) (n : ℕ) :
    (∀ c ∈ (cells ++ cells').take n, c.inside = true) ↔
      (∀ c ∈ cells.take n, c.inside = true) ∧
        ∀ c ∈ cells'.take (n - cells.length), c.inside = true := by
  rw [List.take_append, List.forall_mem_append]

theorem bandCells_eq (d num_bands : ℕ) : bandCells d num_bands =
    (List.range (10 * num_bands)).map fun k => .mbadrc_cfg d (.adrc_band (k / 10) (k % 10)) := by
  unfold bandCells
  induction num_bands with
  | zero => rfl
  | succ n ih =>
    rw [List.range_succ (n := n), List.flatMap_append, List.flatMap_singleton, ih, Nat.mul_succ, List.range_add,
      List.map_append, List.map_map]
    congr 1
    apply List.map_congr_left
    intro j hj
    have hj : j < 10 := List.mem_range.1 hj
    have hdiv : (10 * n + j) / 10 = n := by omega
    have hmod : (10 * n + j) % 10 = j := by omega
    rw [Function.comp_apply, hdiv, hmod]

theorem length_bandCells (d num_bands : ℕ) : (bandCells d num_bands).length = 10 * num_bands := by
  rw [bandCells_eq, List.length_map, List.length_range]

theorem length_bufferCells (d n : ℕ) : (bufferCells d n).length = n := by
  unfold bufferCells
  rw [List.length_map, List.length_range]

/-- The first cells of the bands are in the array of five bands. -/
theorem inside_bands (hd : d < 3) (num_bands n : ℕ) :
    (∀ c ∈ (bandCells d num_bands).take n, c.inside = true) ↔ num_bands ≤ 5 ∨ n ≤ 50 := by
  rw [bandCells_eq, ← List.map_take, List.take_range, List.forall_mem_map]
  simp only [List.mem_range, Cell.inside, MbadrcFilter.inside, hd, Bool.and_eq_true, decide_eq_true_eq,
    true_and]
  constructor
  · intro h
    -- the 50th would be the first of the sixth band
    by_contra hc
    have h50 := h 50 (by omega)
    omega
  · intro h k hk
    omega

/-- The first cells of the buffer are in its array of 196 values. -/
theorem inside_buffer (hd : d < 3) (m n : ℕ) :
    (∀ c ∈ (bufferCells d m).take n, c.inside = true) ↔ m ≤ 196 ∨ n ≤ 196 := by
  unfold bufferCells
  rw [← List.map_take, List.take_range, List.forall_mem_map]
  simp only [List.mem_range, Cell.inside, MbadrcFilter.inside, hd, Bool.and_eq_true, decide_eq_true_eq,
    true_and]
  constructor
  · intro h
    by_contra hc
    have h196 := h 196 (by omega)
    omega
  · intro h k hk
    omega

/-- The cells of a record `D` are inside as far as the bands and the buffer are. -/
theorem inside_mbadrc (hd : d < 3) (num_bands ext_buf_size n : ℕ) :
    (∀ c ∈ (mbadrcCells d num_bands ext_buf_size).take n, c.inside = true) ↔
      (num_bands ≤ 5 ∨ n ≤ 57) ∧ (ext_buf_size / 2 ≤ 196 ∨ n ≤ 203 + 10 * num_bands) := by
  have hfixed : ∀ (cells : List Cell) (k : ℕ), (∀ c ∈ cells, c.inside = true) →
      ∀ c ∈ cells.take k, c.inside = true := fun cells k h c hc => h c (List.mem_of_mem_take hc)
  have hfirst : ∀ c ∈ [Cell.mbadrc_cfg d .num_bands, .mbadrc_cfg d .down_samp_level,
      .mbadrc_cfg d .adrc_delay, .mbadrc_cfg d .ext_buf_size], c.inside = true := by
    simp [Cell.inside, MbadrcFilter.inside, hd]
  have hnext : ∀ c ∈ [Cell.mbadrc_cfg d .ext_partition, .mbadrc_cfg d .ext_buf_msw,
      .mbadrc_cfg d .ext_buf_lsw], c.inside = true := by
    simp [Cell.inside, MbadrcFilter.inside, hd]
  have hflag : ∀ c ∈ [Cell.mbadrc_flag d], c.inside = true := by
    simp [Cell.inside, hd]
  unfold mbadrcCells restCells
  rw [inside_take_append, inside_take_append, inside_take_append, inside_take_append, length_bandCells,
    length_bufferCells, inside_bands hd, inside_buffer hd]
  simp only [List.length_cons, List.length_nil]
  constructor
  · rintro ⟨_, _, hbands, hbuffer, _⟩
    constructor <;> omega
  · rintro ⟨hbands, hbuffer⟩
    refine ⟨hfixed _ _ hfirst, hfixed _ _ hnext, ?_, ?_, hfixed _ _ hflag⟩ <;> omega

/-! ### All lines -/

/-- The line is no record `D`, or its bands and its buffer fit or are cut off by its end. -/
def WithinArrays (buf : List Char) : Prop :=
  charAt buf 0 = 'D' → deviceId (charAt buf 1) ≠ none →
    (uint16 ((tokens buf).getD 2 []) ≤ 5 ∨ (tokens buf).length < 60) ∧
      (uint16 ((tokens buf).getD 5 []) / 2 ≤ 196 ∨
        (tokens buf).length < 206 + 10 * uint16 ((tokens buf).getD 2 []))

/-- Lines that are no record `D` stay within the arrays. -/
theorem inside_recordOf {letter : Char} (hD : letter ≠ 'D') (digit : Char) :
    Emits (fun w => w.cell.inside = true) (recordOf audioeq letter digit) := by
  unfold recordOf
  split
  · refine emits_onDevice fun d hd _ => emits_iirRecord (fun i hi v => ?_) (fun v => ?_) fun v => ?_
    · simp [Cell.inside, RxIirFilter.inside, hd, hi]
    · simp [Cell.inside, hd]
    · simp [Cell.inside, RxIirFilter.inside, hd]
  · refine emits_onDevice fun d hd _ => emits_adrcRecord ?_ (fun v => ?_) fun i hi v => ?_
    · simp [Cell.inside, hd]
    · simp [Cell.inside, hd]
    · simp [Cell.inside, hd, hi]
  · refine emits_onDevice fun d hd _ => emits_eqRecord (fun v => ?_) (fun v => ?_) fun i hi v => ?_
    · simp [Cell.inside, hd]
    · simp [Cell.inside, Eqalizer.inside, hd]
    · simp [Cell.inside, Eqalizer.inside, hd, hi]
  · exact absurd rfl hD
  · refine emits_onRate fun s hs _ => emits_txIirRecord (fun m hm v => ?_) (fun v => ?_) ?_
    · simp [Cell.inside, hs, hm]
    · simp [Cell.inside]
    · simp [Cell.inside, hs]
  · refine emits_onRate fun s hs _ => emits_agcRecord (fun m hm v => ?_) (fun v => ?_) ?_
    · simp [Cell.inside, hs, hm]
    · simp [Cell.inside]
    · simp [Cell.inside, hs]
  · refine emits_onRate fun s hs _ => emits_nsRecord (fun m v => ?_) (fun v => ?_) ?_
    · simp [Cell.inside, hs]
    · simp [Cell.inside]
    · simp [Cell.inside, hs]
  · exact emits_pure ()

/-- **Filter table stores stay in bounds** exactly as far as the numbers in a record `D` fit. -/
theorem inside_iff (audioeq : Option EqCal) (buf : List Char) :
    (∀ w ∈ stores audioeq buf, w.cell.inside = true) ↔ WithinArrays buf := by
  unfold WithinArrays
  by_cases hD : charAt buf 0 = 'D'
  · cases hd : deviceId (charAt buf 1) with
    | none =>
      have hstores : stores audioeq buf = [] := by
        unfold stores scanLine recordOf
        rw [hD]
        unfold onDevice
        simp [hd]
      simp [hstores]
    | some d =>
      have hlt : d < 3 := (deviceId_eq hd).1
      have hstores : stores audioeq buf = ((mbadrcRecord d).run ⟨[], tokens buf⟩).1 := by
        unfold stores scanLine recordOf
        rw [hD]
        unfold onDevice
        simp [hd]
      have hexists : (Write.set (Cell.mbadrc_filter_exists d) 1).cell.inside = true := by
        simp [Cell.inside, hlt]
      rw [hstores, run_mbadrcRecord, List.forall_mem_cons, inside_zipWith, inside_mbadrc hlt,
        List.length_drop]
      simp only [hexists, true_and, hD, ne_eq, reduceCtorEq, not_false_eq_true, forall_const]
      constructor
      · rintro ⟨h1, h2⟩
        constructor <;> omega
      · rintro ⟨h1, h2⟩
        constructor <;> omega
  · constructor
    · exact fun _ h => absurd h hD
    · exact fun _ w hw => inside_recordOf hD _ _ w hw

/-- A record `D` of six bands whose fields are all 0 otherwise. -/
def sixBands : List Char :=
  ['D', '1', ',', 'x', ',', '6'] ++ (List.replicate 67 [',', '0']).flatten

theorem six_bands_outside : ¬ ∀ w ∈ stores none sixBands, w.cell.inside = true := by decide

end Msm7x27a.Filter
