import Msm7x27a.Filter.Records

/-!
# Which records load

The run of each kind of record on the tokens of its line.  Records `A` and `D` load, whatever the end
of the line is; a record `C` loads exactly if the carriage return is a token of its own.
-/

namespace Msm7x27a.Filter

open Msm7x27a.Cells Msm7x27a.Scan

variable {d : ℕ} (eq_cal : EqCal)

/-! ### Fields that go to cells in order -/

/-- The slots are set one after the other. -/
def setAll (slots : List (Cell × ℕ)) : List Store := slots.map fun x => .set x.1 x.2

theorem zipWith_asField {slots : List (Cell × ℕ)} {ts : List (List Char)} (extra : List (List Char))
    (h : ts.map uint16 = slots.map Prod.snd) :
    List.zipWith asField (slots.map Prod.fst) (ts ++ extra) = setAll slots := by
  induction slots generalizing ts with
  | nil =>
    rw [List.map_nil, List.map_eq_nil_iff] at h
    rfl
  | cons x slots ih =>
    obtain ⟨t, ts, rfl, ht, hts⟩ := List.map_eq_cons_iff.1 h
    rw [List.map_cons, List.cons_append, List.zipWith_cons_cons, ih hts]
    unfold asField
    rw [ht]
    rfl

/-- A scanner that reads the fields in order sets the slots, and is content with what follows. -/
theorem run_of_reads {m : Part Unit} {slots : List (Cell × ℕ)} {ts : List (List Char)} {p : List Char}
    (hm : Reads m ((slots.map Prod.fst).map asField)) (extra : List (List Char))
    (h : ts.map uint16 = slots.map Prod.snd) :
    ∃ s, m.run ⟨p, ts ++ extra⟩ = (setAll slots, .ok ((), s)) := by
  have hlen : ts.length = slots.length := by
    have hl := congrArg List.length h
    rwa [List.length_map, List.length_map] at hl
  obtain ⟨q, hq⟩ := hm.done ⟨p, ts ++ extra⟩ (by simp [hlen])
  refine ⟨_, Prod.ext ?_ hq⟩
  rw [hm.out, List.zipWith_map_left]
  exact zipWith_asField extra h

theorem run_header (m : Part Unit) (p h t : List Char) (ts : List (List Char)) :
    (do header; m).run ⟨p, h :: t :: ts⟩ = m.run ⟨t, ts⟩ := rfl

/-! ### A record `A` -/

/-- After its header, a record `A` reads its fields in order. -/
theorem reads_iirRecord (d : ℕ) : ∃ m : Part Unit, iirRecord d = (do header; m) ∧
    Reads m (((List.range 48).map fun i => asField (.iir_cfg d (.iir_params i))) ++
      [asField (.rx_iir_flag d), asField (.iir_cfg d .num_bands)]) := by
  refine ⟨_, rfl, ?_⟩
  have hassoc := bind_assoc strtok
    (fun _ => loop 48 fun i => do store (.iir_cfg d (.iir_params i)); strtok) fun _ => do
      store (.rx_iir_flag d)
      strtok
      store (.iir_cfg d .num_bands)
  unfold strtok at hassoc ⊢
  rw [← hassoc, next_loop, bind_assoc]
  refine Reads.bind ?_ (reads_field (reads_strtok_store _))
  rw [List.map_eq_flatMap]
  exact reads_loop fun i => reads_strtok_store _

theorem map_fst_iir (r : IirFields) : ((Record.iir r).slots eq_cal d).map Prod.fst =
    ((List.range 48).map fun i => Cell.iir_cfg d (.iir_params i)) ++
      [Cell.rx_iir_flag d, Cell.iir_cfg d .num_bands] := by
  unfold Record.slots
  simp [Function.comp_def]

/-- A record `A` with its fields. -/
theorem run_iirFields (r : IirFields) {ts : List (List Char)} {p h t : List Char}
    (extra : List (List Char)) (hts : ts.map uint16 = (Record.iir r).fields.map HexField.value) :
    ∃ s, (iirRecord d).run ⟨p, h :: t :: (ts ++ extra)⟩ =
      (setAll ((Record.iir r).slots eq_cal d), .ok ((), s)) := by
  have hsnd : ts.map uint16 = ((Record.iir r).slots eq_cal d).map Prod.snd := by
    rw [hts]
    unfold Record.slots Record.fields
    simp [Function.comp_def]
  obtain ⟨m, hm, hreads⟩ := reads_iirRecord d
  have hcells : ((List.range 48).map fun i => asField (.iir_cfg d (.iir_params i))) ++
      [asField (.rx_iir_flag d), asField (.iir_cfg d .num_bands)] =
        (((Record.iir r).slots eq_cal d).map Prod.fst).map asField := by
    rw [map_fst_iir]
    simp [Function.comp_def]
  rw [hcells] at hreads
  obtain ⟨s, hs⟩ := run_of_reads (p := t) hreads extra hsnd
  refine ⟨s, ?_⟩
  rw [hm, run_header, hs]

theorem nodup_iir (d : ℕ) : (((List.range 48).map fun i => Cell.iir_cfg d (.iir_params i)) ++
    [Cell.rx_iir_flag d, Cell.iir_cfg d .num_bands]).Nodup := by
  rw [List.nodup_append]
  refine ⟨List.Nodup.map (fun i j h => ?_) List.nodup_range, by simp, ?_⟩
  · simpa using h
  · intro c hc c' hc'
    obtain ⟨i, _, rfl⟩ := List.mem_map.1 hc
    simp only [List.mem_cons, List.not_mem_nil, or_false] at hc'
    rcases hc' with rfl | rfl <;> simp

/-! ### A record `D` -/

theorem nodup_mbadrc (d num_bands ext_buf_size : ℕ) : (mbadrcCells d num_bands ext_buf_size).Nodup := by
  have hbands : (bandCells d num_bands).Nodup := by
    rw [bandCells_eq]
    refine List.Nodup.map (fun k l h => ?_) List.nodup_range
    simp only [Cell.mbadrc_cfg.injEq, MbadrcFilter.adrc_band.injEq, true_and] at h
    omega
  have hbuffer : (bufferCells d (ext_buf_size / 2)).Nodup :=
    List.Nodup.map (fun i j h => by simpa using h) List.nodup_range
  have hband : ∀ c ∈ bandCells d num_bands, ∃ i j, c = .mbadrc_cfg d (.adrc_band i j) := by
    intro c hc
    rw [bandCells_eq] at hc
    obtain ⟨k, _, rfl⟩ := List.mem_map.1 hc
    exact ⟨_, _, rfl⟩
  have hbuf : ∀ c ∈ bufferCells d (ext_buf_size / 2), ∃ i, c = .mbadrc_cfg d (.ext_buf i) := by
    intro c hc
    obtain ⟨i, _, rfl⟩ := List.mem_map.1 hc
    exact ⟨_, rfl⟩
  have hrest : (bandCells d num_bands ++
      (bufferCells d (ext_buf_size / 2) ++ [Cell.mbadrc_flag d])).Nodup := by
    rw [List.nodup_append, List.nodup_append]
    refine ⟨hbands, ⟨hbuffer, by simp, ?_⟩, ?_⟩
    · intro c hc c' hc'
      obtain ⟨i, rfl⟩ := hbuf c hc
      obtain rfl := List.mem_singleton.1 hc'
      simp
    · intro c hc c' hc'
      obtain ⟨i, j, rfl⟩ := hband c hc
      rcases List.mem_append.1 hc' with hc' | hc'
      · obtain ⟨k, rfl⟩ := hbuf c' hc'
        simp
      · obtain rfl := List.mem_singleton.1 hc'
        simp
  have hmem : ∀ c ∈ bandCells d num_bands ++ (bufferCells d (ext_buf_size / 2) ++ [Cell.mbadrc_flag d]),
      (∃ i j, c = .mbadrc_cfg d (.adrc_band i j)) ∨ (∃ i, c = .mbadrc_cfg d (.ext_buf i)) ∨
        c = .mbadrc_flag d := by
    intro c hc
    rcases List.mem_append.1 hc with hc | hc
    · exact .inl (hband c hc)
    · rcases List.mem_append.1 hc with hc | hc
      · exact .inr (.inl (hbuf c hc))
      · exact .inr (.inr (List.mem_singleton.1 hc))
  unfold mbadrcCells restCells
  rw [← List.append_assoc, List.nodup_append]
  refine ⟨by simp, hrest, ?_⟩
  intro c hc c' hc'
  simp only [List.cons_append, List.nil_append, List.mem_cons, List.not_mem_nil, or_false] at hc
  rcases hmem c' hc' with ⟨i, j, rfl⟩ | ⟨i, rfl⟩ | rfl
  all_goals rcases hc with rfl | rfl | rfl | rfl | rfl | rfl | rfl <;> simp

/-- The slots of a record `D` from `ext_partition` on. -/
def MbadrcFields.rest (d : ℕ) (r : MbadrcFields) : List (Cell × ℕ) :=
  [(.mbadrc_cfg d .ext_partition, r.ext_partition.value),
    (.mbadrc_cfg d .ext_buf_msw, r.ext_buf_msw.value),
    (.mbadrc_cfg d .ext_buf_lsw, r.ext_buf_lsw.value)] ++
    (((List.range r.num_bands.value).flatMap fun i => (List.range 10).map fun j =>
      (.mbadrc_cfg d (.adrc_band i j), (r.band i j).value)) ++
    ((List.range (r.ext_buf_size.value / 2)).map (fun i =>
      (.mbadrc_cfg d (.ext_buf i), (r.buffer i).value)) ++
    [(.mbadrc_flag d, r.flag.value)]))

theorem MbadrcFields.map_fst_rest (d : ℕ) (r : MbadrcFields) :
    (r.rest d).map Prod.fst = restCells d r.num_bands.value r.ext_buf_size.value := by
  unfold rest restCells bandCells bufferCells
  simp [List.map_flatMap, Function.comp_def]

/-- A record `D` with its fields. -/
theorem run_mbadrcFields (r : MbadrcFields) {ts : List (List Char)} {p h t : List Char}
    (extra : List (List Char)) (hts : ts.map uint16 = (Record.mbadrc r).fields.map HexField.value) :
    ∃ s, (mbadrcRecord d).run ⟨p, h :: t :: (ts ++ extra)⟩ =
      (.set (.mbadrc_filter_exists d) 1 :: setAll ((Record.mbadrc r).slots eq_cal d), .ok ((), s)) := by
  obtain ⟨t2, ts, rfl, h2, hts⟩ := List.map_eq_cons_iff.1 hts
  obtain ⟨t3, ts, rfl, h3, hts⟩ := List.map_eq_cons_iff.1 hts
  obtain ⟨t4, ts, rfl, h4, hts⟩ := List.map_eq_cons_iff.1 hts
  obtain ⟨t5, ts, rfl, h5, hts⟩ := List.map_eq_cons_iff.1 hts
  have hsnd : ts.map uint16 = (r.rest d).map Prod.snd := by
    rw [hts]
    unfold MbadrcFields.rest
    simp [List.map_flatMap, Function.comp_def]
  have hreads := reads_mbadrcRest d r.num_bands.value r.ext_buf_size.value
  rw [← r.map_fst_rest d] at hreads
  obtain ⟨s, hs⟩ := run_of_reads (p := t5) hreads extra hsnd
  refine ⟨s, ?_⟩
  calc (mbadrcRecord d).run ⟨p, h :: t :: (t2 :: t3 :: t4 :: t5 :: ts ++ extra)⟩
      = ([.set (.mbadrc_filter_exists d) 1, asField (.mbadrc_cfg d .num_bands) t2,
          asField (.mbadrc_cfg d .down_samp_level) t3, asField (.mbadrc_cfg d .adrc_delay) t4,
          asField (.mbadrc_cfg d .ext_buf_size) t5] ++
          ((mbadrcRest d (uint16 t2) (uint16 t5)).run ⟨t5, ts ++ extra⟩).1,
        ((mbadrcRest d (uint16 t2) (uint16 t5)).run ⟨t5, ts ++ extra⟩).2) := rfl
    _ = _ := by
      unfold asField
      rw [h2, h3, h4, h5, hs]
      rfl

/-! ### A record `C` -/

theorem run_eqBand (i : ℕ) (g f t q e : List Char) (rest : List (List Char)) :
    (eqBand d eq_cal 8 i).run ⟨g, f :: t :: q :: e :: rest⟩ =
      (setAll (coefSlots d i (eq_cal (int16 (uint16 g)) (uint16 f) 48000 (uint16 t) (uint16 q))),
        .ok ((), ⟨e, rest⟩)) := rfl

/-- The bands of a record, when a token follows their fields. -/
theorem run_eqBands (b : ℕ → Band) (n : ℕ) {p : List Char} {tail : List (List Char)} {e : List Char}
    {rest : List (List Char)}
    (h : p :: tail = ((List.range n).flatMap fun i =>
      [(b i).gain.text, (b i).freq.text, (b i).type.text, (b i).qf.text]) ++ e :: rest) :
    (loop n (eqBand d eq_cal 8)).run ⟨p, tail⟩ =
      (setAll ((List.range n).flatMap fun i => coefSlots d i ((b i).coefs eq_cal)),
        .ok ((), ⟨e, rest⟩)) := by
  induction n generalizing e rest with
  | zero =>
    obtain ⟨rfl, rfl⟩ := List.cons.inj h
    rfl
  | succ n ih =>
    rw [List.range_succ, List.flatMap_append, List.flatMap_singleton, List.append_assoc] at h
    have hprev : (loop n (eqBand d eq_cal 8)).run ⟨p, tail⟩ =
        (setAll ((List.range n).flatMap fun i => coefSlots d i ((b i).coefs eq_cal)),
          .ok ((), ⟨(b n).gain.text,
            (b n).freq.text :: (b n).type.text :: (b n).qf.text :: e :: rest⟩)) := ih h
    have hcoefs : coefSlots d n (eq_cal (int16 (uint16 (b n).gain.text)) (uint16 (b n).freq.text) 48000
        (uint16 (b n).type.text) (uint16 (b n).qf.text)) = coefSlots d n ((b n).coefs eq_cal) := by
      rw [HexField.uint16_alone, HexField.uint16_alone, HexField.uint16_alone, HexField.uint16_alone]
      rfl
    unfold loop
    rw [bind_ok hprev, run_eqBand, hcoefs, List.range_succ, List.flatMap_append, List.flatMap_singleton]
    unfold setAll
    rw [List.map_append]

/-- Where the cells of the bands are among the parameters of the equalizer. -/
theorem nodup_coefs (d : ℕ) (c : ℕ → Coefs) :
    (((List.range 8).flatMap fun i => coefSlots d i (c i)).map Prod.fst).Nodup := by
  have hcells : ((List.range 8).flatMap fun i => coefSlots d i (c i)).map Prod.fst =
      ((List.range 8).flatMap fun i => (List.range 6).map (fun j => i * 6 + j) ++
        ((List.range 4).map (fun j => 48 + i * 4 + j) ++ [80 + i])).map
          fun k => Cell.equalizer d (.params k) := by
    unfold coefSlots
    simp only [List.map_flatMap, List.map_append, List.map_map, List.map_cons, List.map_nil,
      Function.comp_def]
  rw [hcells]
  refine List.Nodup.map (fun k l h => by simpa using h) (by decide)

/-- The stores of a record `C` before its bands. -/
def eqStores (d flag : ℕ) : List Store :=
  .set (.eq_flag d) flag :: .set (.equalizer d .bands) 0 ::
    ((List.range 132).map (fun i => .set (.equalizer d (.params i)) 0) ++ [.set (.equalizer d .bands) 8])

theorem run_clearEqualizer (s : Cursor (List Char)) : (clearEqualizer d).run s =
    (.set (.equalizer d .bands) 0 :: (List.range 132).map (fun i => .set (.equalizer d (.params i)) 0),
      .ok ((), s)) := by
  unfold clearEqualizer
  rw [bind_ok (run_emit _ s), run_loop_emit]
  rfl

/-- A record `C` with its fields, when a token follows them. -/
theorem run_eqFields (r : EqFields) {p h t e : List Char} (rest : List (List Char)) :
    (eqRecord d (some eq_cal)).run
        ⟨p, h :: t :: ((Record.eq r).fields.map HexField.text ++ e :: rest)⟩ =
      (eqStores d r.flag.value ++
        setAll ((List.range 8).flatMap fun i => coefSlots d i ((r.band i).coefs eq_cal)),
        .ok ((), ⟨e, rest⟩)) := by
  have hfields : (Record.eq r).fields.map HexField.text ++ e :: rest = r.flag.text ::
      (((List.range 8).flatMap fun i => [(r.band i).gain.text, (r.band i).freq.text,
        (r.band i).type.text, (r.band i).qf.text]) ++ e :: rest) := by
    unfold Record.fields
    rw [List.map_cons, List.map_flatMap, List.cons_append]
    rfl
  have hcons : ∃ q tail, q :: tail = ((List.range 8).flatMap fun i => [(r.band i).gain.text,
      (r.band i).freq.text, (r.band i).type.text, (r.band i).qf.text]) ++ e :: rest := ⟨_, _, rfl⟩
  obtain ⟨q, tail, hq⟩ := hcons
  have hbands := run_eqBands (d := d) eq_cal r.band 8 hq
  rw [hfields, ← hq]
  unfold eqRecord
  rw [run_header]
  unfold strtok store
  rw [bind_ok (next_cons einval t r.flag.text (q :: tail)), bind_ok (run_put _ _),
    bind_ok (next_cons einval r.flag.text q tail)]
  dsimp only
  rw [bind_ok (run_clearEqualizer _), bind_ok (run_emit _ _), hbands, HexField.uint16_alone]
  unfold eqStores
  simp

theorem takes_eqBand (i : ℕ) : Takes einval 4 (eqBand d eq_cal 8 i) := by
  have hnumber : Takes einval 0 number := takes_token.bind fun p => takes_pure (uint16 p)
  have hcoefs : ∀ c, Takes einval 0 (storeCoefs d 8 i c) := fun c =>
    (takes_loop (k := 0) fun j => takes_emit _).bind fun _ =>
      (takes_loop (k := 0) fun j => takes_emit _).bind fun _ => takes_emit _
  have hfield : ∀ {k : ℕ} {m : ℕ → Part Unit}, (∀ v, Takes einval k (m v)) →
      Takes einval (0 + (1 + k)) (do let v ← number; strtok; m v) :=
    fun hm => hnumber.bind fun v => takes_next.bind fun _ => hm v
  exact hfield fun gain => hfield fun freq => hfield fun type => hfield fun qf => hcoefs _

/-- A record `C` takes 36 tokens: one after its last field. -/
theorem takes_eqRecord : Takes einval 36 (eqRecord d (some eq_cal)) := by
  have hheader : Takes einval 2 header := takes_next.bind fun _ => takes_next
  have hclear : Takes einval 0 (clearEqualizer d) :=
    (takes_emit _).bind fun _ => takes_loop (n := 132) (k := 0) fun i => takes_emit _
  have hbands : Takes einval 32 (loop 8 (eqBand d eq_cal 8)) := takes_loop (n := 8) (takes_eqBand eq_cal)
  have hrest := hclear.bind fun _ => (takes_emit (Write.set (Cell.equalizer d .bands) 8)).bind
    fun _ => hbands
  exact hheader.bind fun _ => takes_next.bind fun _ => (takes_put _).bind fun _ =>
    takes_next.bind fun _ => hrest

/-! ### Lines -/

theorem deviceId_digitOf : ∀ d : Fin 3, deviceId (digitOf d) = some (d : ℕ) := by decide

theorem onDevice_digitOf (record : ℕ → Part Unit) (d : Fin 3) :
    onDevice record (digitOf d) = record d := by
  unfold onDevice
  rw [deviceId_digitOf]

/-- The scanner of a record. -/
def Record.part (eq_cal : EqCal) (d : ℕ) : Record → Part Unit
  | iir _ => iirRecord d
  | eq _ => eqRecord d (some eq_cal)
  | mbadrc _ => mbadrcRecord d

theorem scanLine_line (y : Layout) (r : Record) :
    scanLine (some eq_cal) (y.line r) = (r.part eq_cal y.device_id).run ⟨[], tokens (y.line r)⟩ := by
  have hchars : charAt (y.line r) 0 = r.letter ∧ charAt (y.line r) 1 = digitOf y.device_id := ⟨rfl, rfl⟩
  unfold scanLine recordOf
  rw [hchars.1, hchars.2]
  cases r with
  | iir r => exact congrArg (fun m => Scanner.run m _) (onDevice_digitOf iirRecord _)
  | eq r => exact congrArg (fun m => Scanner.run m _) (onDevice_digitOf (eqRecord · _) _)
  | mbadrc r => exact congrArg (fun m => Scanner.run m _) (onDevice_digitOf mbadrcRecord _)

/-- A line that is accepted after its slots have been set, each once. -/
theorem stored_of_scanLine {buf : List Char} {pre : List Store} {slots : List (Cell × ℕ)}
    {s : Cursor (List Char)}
    (h : scanLine (some eq_cal) buf = (pre ++ setAll slots, .ok ((), s)))
    (hslots : (slots.map Prod.fst).Nodup) (T : Tables) :
    (check_and_set_audpp_parameters (some eq_cal) buf T).2 = 0 ∧
      ∀ x ∈ slots, (check_and_set_audpp_parameters (some eq_cal) buf T).1 x.1 = x.2 := by
  unfold check_and_set_audpp_parameters stores result
  rw [h]
  refine ⟨rfl, fun x hx => ?_⟩
  dsimp only
  rw [applyAll_append]
  exact applyAll_set hslots hx _

theorem loads_iir (y : Layout) (r : IirFields) (T : Tables) : Loads eq_cal y (.iir r) T := by
  obtain ⟨ts, htokens, hvalues, _⟩ := tokens_line y (.iir r)
  obtain ⟨s, hs⟩ := run_iirFields (d := y.device_id) (p := []) (t := y.description)
    (h := [(Record.iir r).letter, digitOf y.device_id]) eq_cal r y.extra hvalues
  have hscan := scanLine_line eq_cal y (.iir r)
  rw [htokens] at hscan
  have hcells : (((Record.iir r).slots eq_cal y.device_id).map Prod.fst).Nodup := by
    rw [map_fst_iir]
    exact nodup_iir _
  have hrun : scanLine (some eq_cal) (y.line (.iir r)) =
      ([] ++ setAll ((Record.iir r).slots eq_cal y.device_id), .ok ((), s)) := hscan.trans hs
  exact stored_of_scanLine eq_cal hrun hcells T

theorem loads_mbadrc (y : Layout) (r : MbadrcFields) (T : Tables) : Loads eq_cal y (.mbadrc r) T := by
  obtain ⟨ts, htokens, hvalues, _⟩ := tokens_line y (.mbadrc r)
  obtain ⟨s, hs⟩ := run_mbadrcFields (d := y.device_id) (p := []) (t := y.description)
    (h := [(Record.mbadrc r).letter, digitOf y.device_id]) eq_cal r y.extra hvalues
  have hscan := scanLine_line eq_cal y (.mbadrc r)
  rw [htokens] at hscan
  have hfst : ((Record.mbadrc r).slots eq_cal y.device_id).map Prod.fst =
      mbadrcCells y.device_id r.num_bands.value r.ext_buf_size.value := by
    unfold mbadrcCells
    rw [← r.map_fst_rest]
    rfl
  have hcells : (((Record.mbadrc r).slots eq_cal y.device_id).map Prod.fst).Nodup := by
    rw [hfst]
    exact nodup_mbadrc _ _ _
  have hrun : scanLine (some eq_cal) (y.line (.mbadrc r)) =
      ([.set (.mbadrc_filter_exists y.device_id) 1] ++ setAll ((Record.mbadrc r).slots eq_cal y.device_id),
        .ok ((), s)) := hscan.trans hs
  exact stored_of_scanLine eq_cal hrun hcells T

/-- With a token after its last field, a record `C` loads. -/
theorem loads_eq (y : Layout) (r : EqFields) (T : Tables) (hextra : y.extra ≠ []) :
    Loads eq_cal y (.eq r) T := by
  obtain ⟨ts, htokens, _, htext⟩ := tokens_line y (.eq r)
  obtain ⟨e, rest, he⟩ := List.exists_cons_of_ne_nil hextra
  have hrun := run_eqFields (d := y.device_id) (p := []) (t := y.description) (e := e)
    (h := [(Record.eq r).letter, digitOf y.device_id]) eq_cal r rest
  have hscan := scanLine_line eq_cal y (.eq r)
  rw [htokens, htext hextra, he] at hscan
  have hstored := stored_of_scanLine eq_cal (hscan.trans hrun) (nodup_coefs _ _) T
  refine ⟨hstored.1, fun x hx => ?_⟩
  rcases List.mem_cons.1 hx with rfl | hx
  · -- the flag is set first, and not again
    have hother : ∀ c ∈ ((List.range 8).flatMap fun i =>
        coefSlots y.device_id i ((r.band i).coefs eq_cal)).map Prod.fst,
        ∃ m, c = .equalizer y.device_id m := by
      unfold coefSlots
      simp only [List.map_flatMap, List.map_append, List.map_map, List.map_cons, List.map_nil]
      intro c hc
      obtain ⟨i, _, hc⟩ := List.mem_flatMap.1 hc
      simp only [List.mem_append, List.mem_map, List.mem_singleton, Function.comp_apply] at hc
      rcases hc with ⟨j, _, rfl⟩ | ⟨j, _, rfl⟩ | rfl <;> exact ⟨_, rfl⟩
    have hstores : stores (some eq_cal) (y.line (.eq r)) = _ :=
      congrArg Prod.fst (hscan.trans hrun)
    unfold check_and_set_audpp_parameters
    rw [hstores]
    unfold eqStores
    dsimp only
    rw [List.cons_append, applyAll_cons, applyAll_other]
    · simp [Write.apply]
    · intro w hw
      rw [List.cons_append, List.mem_cons, List.append_assoc, List.mem_append, List.mem_append] at hw
      rcases hw with rfl | hw | hw | hw
      · simp
      · obtain ⟨i, _, rfl⟩ := List.mem_map.1 hw
        simp
      · obtain rfl := List.mem_singleton.1 hw
        simp
      · obtain ⟨z, hz, rfl⟩ := List.mem_map.1 hw
        obtain ⟨m, hm⟩ := hother z.1 (List.mem_map.2 ⟨z, hz, rfl⟩)
        rw [Write.cell_set, hm]
        simp
  · exact hstored.2 x hx

/-- Without one it is not accepted. -/
theorem not_loads_eq (y : Layout) (r : EqFields) (T : Tables) (hextra : y.extra = []) :
    ¬ Loads eq_cal y (.eq r) T := by
  obtain ⟨ts, htokens, hvalues, _⟩ := tokens_line y (.eq r)
  have hlen : ts.length = 33 := by
    have h := congrArg List.length hvalues
    rw [List.length_map, List.length_map] at h
    rw [h]
    rfl
  have hscan := scanLine_line eq_cal y (.eq r)
  rw [htokens, hextra, List.append_nil] at hscan
  have herror : (scanLine (some eq_cal) (y.line (.eq r))).2 = .error einval := by
    rw [hscan]
    apply (takes_eqRecord eq_cal).short
    simp [hlen]
  have hresult : result (some eq_cal) (y.line (.eq r)) = einval := by
    unfold result
    rw [herror]
  intro h
  have h0 : result (some eq_cal) (y.line (.eq r)) = 0 := h.1
  rw [hresult] at h0
  exact absurd h0 (by decide)

theorem extra_ne_nil (y : Layout) :
    y.extra ≠ [] ↔ y.emptyColumns ≠ 0 ∧ y.carriageReturn = true := by
  obtain ⟨_, _, _, _, n, cr⟩ := y
  unfold Layout.extra
  cases n <;> cases cr <;> simp

/-- **Filter records load** exactly if, for a record `C`, the carriage return is a token. -/
theorem loads_iff (eq_cal : EqCal) (y : Layout) (r : Record) (T : Tables) :
    Loads eq_cal y r T ↔ (r.letter = 'C' → y.emptyColumns ≠ 0 ∧ y.carriageReturn = true) := by
  cases r with
  | iir r =>
    refine iff_of_true (loads_iir eq_cal y r T) fun h => ?_
    exact absurd h (by decide : 'A' ≠ 'C')
  | eq r =>
    rw [← extra_ne_nil]
    constructor
    · exact fun h _ he => not_loads_eq eq_cal y r T he h
    · exact fun h => loads_eq eq_cal y r T (h rfl)
  | mbadrc r =>
    refine iff_of_true (loads_mbadrc eq_cal y r T) fun h => ?_
    exact absurd h (by decide : 'D' ≠ 'C')

/-- The field `0`. -/
def zeroField : HexField where
  blanks := 0
  digits := ['0']
  nonempty := by decide
  hex c hc := by
    rw [List.mem_singleton.1 hc]
    decide
  small := by decide

/-- A record `C` whose fields are all 0, on a line that ends after them. -/
def bareLine : Layout := ⟨⟨0, by decide⟩, ['E', 'Q'], by decide, by decide, 0, true⟩

theorem bare_equalizer_rejected :
    ¬ Loads (fun _ _ _ _ _ => ⟨fun _ => 0, fun _ => 0, fun _ => 0⟩) bareLine
      (.eq ⟨zeroField, fun _ => ⟨zeroField, zeroField, zeroField, zeroField⟩⟩) fun _ => 0 :=
  not_loads_eq _ _ _ _ rfl

end Msm7x27a.Filter
