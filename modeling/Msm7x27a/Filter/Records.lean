import Msm7x27a.Filter.Bounds
import Msm7x27a.Lib.CString

/-!
# Records that load

Records `A`, `C` and `D` as they are laid out in `AudioFilter.csv`: the fields in hexadecimal, then
empty columns, and at the end of the line a carriage return.  Empty columns are no tokens, but the
carriage return after one is.  A record `C` asks for a token after its last field.
-/

namespace Msm7x27a.Filter

open Msm7x27a.Cells Msm7x27a.Scan Msm7x27a.CString

/-- The text of a field: blanks, and the digits of a number of 16 bits. -/
structure HexField where
  blanks : ℕ
  digits : List Char
  nonempty : digits ≠ []
  hex : ∀ c ∈ digits, (hexDigit c).isSome = true
  small : hexValue 0 digits < 65536

namespace HexField

def text (f : HexField) : List Char := List.replicate f.blanks ' ' ++ f.digits

def value (f : HexField) : ℕ := hexValue 0 f.digits

end HexField

/-- A record `A`. -/
structure IirFields where
  coef : ℕ → HexField
  flag : HexField
  num_bands : HexField

structure Band where
  gain : HexField
  freq : HexField
  type : HexField
  qf : HexField

/-- A record `C`. -/
structure EqFields where
  flag : HexField
  band : ℕ → Band

/-- A record `D`. -/
structure MbadrcFields where
  num_bands : HexField
  down_samp_level : HexField
  adrc_delay : HexField
  ext_buf_size : HexField
  ext_partition : HexField
  ext_buf_msw : HexField
  ext_buf_lsw : HexField
  band : ℕ → ℕ → HexField
  buffer : ℕ → HexField
  flag : HexField
  few : num_bands.value ≤ 5
  even : ext_buf_size.value % 2 = 0
  fits : ext_buf_size.value ≤ 392

inductive Record where
  | iir (r : IirFields)
  | eq (r : EqFields)
  | mbadrc (r : MbadrcFields)

namespace Record

def letter : Record → Char
  | iir _ => 'A'
  | eq _ => 'C'
  | mbadrc _ => 'D'

/-- The fields in the order of the columns. -/
def fields : Record → List HexField
  | iir r => (List.range 48).map r.coef ++ [r.flag, r.num_bands]
  | eq r => r.flag :: (List.range 8).flatMap fun i =>
      [(r.band i).gain, (r.band i).freq, (r.band i).type, (r.band i).qf]
  | mbadrc r => [r.num_bands, r.down_samp_level, r.adrc_delay, r.ext_buf_size, r.ext_partition,
      r.ext_buf_msw, r.ext_buf_lsw] ++
      (((List.range r.num_bands.value).flatMap fun i => (List.range 10).map (r.band i)) ++
        ((List.range (r.ext_buf_size.value / 2)).map r.buffer ++ [r.flag]))

end Record

/-- What a line of the file has besides its fields. -/
structure Layout where
  device_id : Fin 3
  description : List Char
  nonempty : description ≠ []
  noComma : ',' ∉ description
  emptyColumns : ℕ
  carriageReturn : Bool

namespace Layout

/-- The end of a line. -/
def tail (y : Layout) : List Char :=
  List.replicate y.emptyColumns ',' ++ if y.carriageReturn then ['\r'] else []

def line (y : Layout) (r : Record) : List Char :=
  [r.letter, digitOf y.device_id] ++ ',' :: (y.description ++
    ((r.fields.flatMap fun f => ',' :: f.text) ++ y.tail))

end Layout

/-! ### The slots of a record -/

/-- What `eq_cal` makes of a band. -/
def Band.coefs (eq_cal : EqCal) (b : Band) : Coefs :=
  eq_cal (int16 b.gain.value) b.freq.value 48000 b.type.value b.qf.value

/-- The offsets of a band in the equalizer: numerators first, then denominators, then shifts. -/
def coefSlots (d i : ℕ) (c : Coefs) : List (Cell × ℕ) :=
  (List.range 6).map (fun j => (.equalizer d (.params (i * 6 + j)), c.numerator j)) ++
    ((List.range 4).map (fun j => (.equalizer d (.params (48 + i * 4 + j)), c.denominator j)) ++
      [(.equalizer d (.params (80 + i)), c.shift 0)])

/-- The cells that the record is for, with the values that they should get. -/
def Record.slots (eq_cal : EqCal) (d : ℕ) : Record → List (Cell × ℕ)
  | iir r => (List.range 48).map (fun i => (.iir_cfg d (.iir_params i), (r.coef i).value)) ++
      [(.rx_iir_flag d, r.flag.value), (.iir_cfg d .num_bands, r.num_bands.value)]
  | eq r => (.eq_flag d, r.flag.value) ::
      (List.range 8).flatMap fun i => coefSlots d i ((r.band i).coefs eq_cal)
  | mbadrc r => [(.mbadrc_cfg d .num_bands, r.num_bands.value),
      (.mbadrc_cfg d .down_samp_level, r.down_samp_level.value),
      (.mbadrc_cfg d .adrc_delay, r.adrc_delay.value),
      (.mbadrc_cfg d .ext_buf_size, r.ext_buf_size.value),
      (.mbadrc_cfg d .ext_partition, r.ext_partition.value),
      (.mbadrc_cfg d .ext_buf_msw, r.ext_buf_msw.value),
      (.mbadrc_cfg d .ext_buf_lsw, r.ext_buf_lsw.value)] ++
      (((List.range r.num_bands.value).flatMap fun i => (List.range 10).map fun j =>
        (.mbadrc_cfg d (.adrc_band i j), (r.band i j).value)) ++
      ((List.range (r.ext_buf_size.value / 2)).map (fun i =>
        (.mbadrc_cfg d (.ext_buf i), (r.buffer i).value)) ++
      [(.mbadrc_flag d, r.flag.value)]))

/-- The line is accepted, and each value is in its slot. -/
def Loads (eq_cal : EqCal) (y : Layout) (r : Record) (T : Tables) : Prop :=
  (check_and_set_audpp_parameters (some eq_cal) (y.line r) T).2 = 0 ∧
    ∀ x ∈ r.slots eq_cal y.device_id,
      (check_and_set_audpp_parameters (some eq_cal) (y.line r) T).1 x.1 = x.2

/-! ### The tokens of a line -/

theorem tokens_comma (s : List Char) : tokens (',' :: s) = tokens s := columns_sep ',' s

/-- A column that is not empty is a token. -/
theorem tokens_column {t : List Char} (ht : t ≠ []) (hc : ',' ∉ t) (s : List Char) :
    tokens (t ++ ',' :: s) = t :: tokens s := columns_column ht hc s

/-- The last column. -/
theorem tokens_end {t : List Char} (ht : t ≠ []) (hc : ',' ∉ t) : tokens t = [t] :=
  columns_last ht hc

/-- Empty columns are no tokens. -/
theorem tokens_empty (n : ℕ) (s : List Char) : tokens (List.replicate n ',' ++ s) = tokens s := by
  induction n with
  | zero => rfl
  | succ n ih => rw [List.replicate_succ, List.cons_append, tokens_comma, ih]

theorem tokens_columns {ts : List (List Char)} (h : ∀ t ∈ ts, t ≠ [] ∧ ',' ∉ t) {t : List Char}
    (ht : t ≠ [] ∧ ',' ∉ t) (s : List Char) :
    tokens (t ++ ((ts.flatMap fun t => ',' :: t) ++ ',' :: s)) = t :: (ts ++ tokens s) := by
  induction ts generalizing t with
  | nil => exact tokens_column ht.1 ht.2 s
  | cons u ts ih =>
    obtain ⟨hu, hts⟩ := List.forall_mem_cons.1 h
    rw [List.flatMap_cons, List.append_assoc, List.cons_append, tokens_column ht.1 ht.2, ih hts hu]
    rfl

/-! ### The values of the fields -/

namespace HexField

theorem zero_le_of_hex {c : Char} (h : (hexDigit c).isSome = true) : '0' ≤ c := by
  unfold hexDigit at h
  split at h
  next h0 =>
    rw [Bool.and_eq_true, decide_eq_true_eq] at h0
    exact h0.1
  next =>
    split at h
    next ha =>
      rw [Bool.and_eq_true, decide_eq_true_eq] at ha
      exact Char.le_trans (by decide) ha.1
    next =>
      split at h
      next hA =>
        rw [Bool.and_eq_true, decide_eq_true_eq] at hA
        exact Char.le_trans (by decide) hA.1
      next => cases h

theorem isSpace_of_hex {c : Char} (h : (hexDigit c).isSome = true) : isSpace c = false := by
  have h0 := zero_le_of_hex h
  unfold isSpace
  rw [Bool.or_eq_false_iff, Bool.and_eq_false_iff]
  refine ⟨decide_eq_false ?_, .inr (decide_eq_false fun hr => ?_)⟩
  · rintro rfl
    exact absurd h (by decide)
  · exact absurd (Char.le_trans h0 hr) (by decide)

theorem text_ne_nil (f : HexField) : f.text ≠ [] := fun h =>
  f.nonempty (List.append_eq_nil_iff.1 h).2

theorem comma_not_mem (f : HexField) : ',' ∉ f.text := by
  intro h
  rcases List.mem_append.1 h with h | h
  · exact absurd (List.eq_of_mem_replicate h) (by decide)
  · exact absurd (f.hex _ h) (by decide)

/-- What follows the digits ends the number. -/
theorem hexValue_append {ds s : List Char} (hds : ∀ c ∈ ds, (hexDigit c).isSome = true)
    (hs : ∀ c ∈ s.head?, hexDigit c = none) (n : ℕ) : hexValue n (ds ++ s) = hexValue n ds := by
  induction ds generalizing n with
  | nil =>
    cases s with
    | nil => rfl
    | cons c s =>
      have hc : hexDigit c = none := hs c rfl
      rw [List.nil_append]
      unfold hexValue
      rw [hc]
  | cons d ds ih =>
    obtain ⟨v, hv⟩ := Option.isSome_iff_exists.1 (hds d (List.mem_cons_self ..))
    rw [List.cons_append]
    unfold hexValue
    rw [hv]
    exact ih (fun c hc => hds c (List.mem_cons_of_mem _ hc)) _

/-- Digits have no prefix. -/
theorem dropPrefix_digits {ds s : List Char} (hds : ∀ c ∈ ds, (hexDigit c).isSome = true)
    (hs : ∀ c ∈ s.head?, c ≠ 'x' ∧ c ≠ 'X') (hne : ds ≠ []) : dropPrefix (ds ++ s) = ds ++ s := by
  obtain ⟨d, ds, rfl⟩ := List.exists_cons_of_ne_nil hne
  have hsecond : ∀ c ∈ (ds ++ s).head?, c ≠ 'x' ∧ c ≠ 'X' := by
    intro c hc
    cases ds with
    | nil => exact hs c hc
    | cons d' ds =>
      obtain rfl := Option.some.inj hc
      have hd' := hds d' (by simp)
      constructor
      · rintro rfl
        exact absurd hd' (by decide)
      · rintro rfl
        exact absurd hd' (by decide)
  rw [List.cons_append]
  generalize ds ++ s = r at hsecond
  unfold dropPrefix
  split
  next heq =>
    obtain ⟨_, rfl⟩ := List.cons.inj heq
    exact absurd rfl (hsecond 'x' rfl).1
  next heq =>
    obtain ⟨_, rfl⟩ := List.cons.inj heq
    exact absurd rfl (hsecond 'X' rfl).2
  next => rfl

/-- The text of a field is read as its value, also before a carriage return. -/
theorem uint16_text (f : HexField) {s : List Char} (hs : s = [] ∨ s = ['\r']) :
    uint16 (f.text ++ s) = f.value := by
  have hdrop : (f.text ++ s).dropWhile isSpace = f.digits ++ s := by
    obtain ⟨d, ds, hd⟩ := List.exists_cons_of_ne_nil f.nonempty
    have hspace : isSpace d = false := isSpace_of_hex (f.hex d (by rw [hd]; simp))
    unfold text
    rw [List.append_assoc, List.dropWhile_append_of_pos]
    · rw [hd, List.cons_append, List.dropWhile_cons_of_neg (by simp [hspace])]
    · intro c hc
      rw [List.eq_of_mem_replicate hc]
      rfl
  have hdigits : dropPrefix (f.digits ++ s) = f.digits ++ s := by
    refine dropPrefix_digits f.hex (fun c hc => ?_) f.nonempty
    rcases hs with rfl | rfl
    · cases hc
    · obtain rfl := Option.some.inj hc
      decide
  have hvalue : hexValue 0 (f.digits ++ s) = f.value := by
    refine hexValue_append f.hex (fun c hc => ?_) 0
    rcases hs with rfl | rfl
    · cases hc
    · obtain rfl := Option.some.inj hc
      decide
  have hfirst : ∀ c r, f.digits ++ s = c :: r → (hexDigit c).isSome = true := by
    intro c r heq
    obtain ⟨d, ds, hd⟩ := List.exists_cons_of_ne_nil f.nonempty
    rw [hd, List.cons_append] at heq
    exact (List.cons.inj heq).1 ▸ f.hex d (by rw [hd]; simp)
  have hsmall : f.value < 65536 := f.small
  unfold uint16 strtol
  rw [hdrop]
  split
  next r heq => exact absurd (hfirst _ r heq) (by decide)
  next r heq => exact absurd (hfirst _ r heq) (by decide)
  next =>
    rw [hdigits, hvalue]
    omega

theorem uint16_alone (f : HexField) : uint16 f.text = f.value := by
  have h := f.uint16_text (.inl rfl)
  rwa [List.append_nil] at h

end HexField

/-! ### The tokens of a record -/

theorem Record.fields_ne_nil (r : Record) : r.fields ≠ [] := by
  cases r <;> simp [Record.fields]

/-- The carriage return of a line, as a token of its own. -/
def Layout.extra (y : Layout) : List (List Char) :=
  match y.emptyColumns, y.carriageReturn with
  | _ + 1, true => [['\r']]
  | _, _ => []

/-- The last field and the end of the line: a field, and what is left of the carriage return. -/
theorem tokens_tail (y : Layout) (f : HexField) :
    ∃ t, tokens (f.text ++ y.tail) = t :: y.extra ∧ uint16 t = f.value ∧
      (y.extra ≠ [] → t = f.text) := by
  obtain ⟨d, description, _, _, n, cr⟩ := y
  unfold Layout.tail Layout.extra
  cases n with
  | zero =>
    cases cr with
    | false =>
      refine ⟨f.text, ?_, f.uint16_alone, fun _ => rfl⟩
      simpa using tokens_end f.text_ne_nil f.comma_not_mem
    | true =>
      refine ⟨f.text ++ ['\r'], tokens_end ?_ ?_, f.uint16_text (.inr rfl), absurd rfl⟩
      · exact fun h => f.text_ne_nil (List.append_eq_nil_iff.1 h).1
      · simpa using f.comma_not_mem
  | succ n =>
    refine ⟨f.text, ?_, f.uint16_alone, fun _ => rfl⟩
    dsimp only
    rw [List.replicate_succ, List.cons_append, tokens_column f.text_ne_nil f.comma_not_mem, tokens_empty]
    cases cr <;> rfl

/-- **The tokens of a record:** its letter and digit, its description, its fields, and possibly the
carriage return. -/
theorem tokens_line (y : Layout) (r : Record) :
    ∃ ts, tokens (y.line r) = [r.letter, digitOf y.device_id] :: y.description :: (ts ++ y.extra) ∧
      ts.map uint16 = r.fields.map HexField.value ∧
      (y.extra ≠ [] → ts = r.fields.map HexField.text) := by
  obtain ⟨front, last, hfields⟩ := (List.eq_nil_or_concat r.fields).resolve_left r.fields_ne_nil
  rw [List.concat_eq_append] at hfields
  obtain ⟨t, ht, hvalue, htext⟩ := tokens_tail y last
  refine ⟨front.map HexField.text ++ [t], ?_, ?_, ?_⟩
  · have hfront : ∀ u ∈ front.map HexField.text, u ≠ [] ∧ ',' ∉ u := by
      rw [List.forall_mem_map]
      exact fun f _ => ⟨f.text_ne_nil, f.comma_not_mem⟩
    have hline : y.line r = [r.letter, digitOf y.device_id] ++ ',' :: (y.description ++
        (((front.map HexField.text).flatMap fun t => ',' :: t) ++ ',' :: (last.text ++ y.tail))) := by
      unfold Layout.line
      rw [hfields, List.flatMap_append, List.flatMap_singleton, List.flatMap_map, List.append_assoc]
      rfl
    rw [hline, tokens_column, tokens_columns hfront ⟨y.nonempty, y.noComma⟩, ht, List.append_assoc]
    · rfl
    · simp
    · have hdigit : ∀ d : Fin 3, digitOf d ≠ ',' := by decide
      have hletter : r.letter ≠ ',' := by
        cases r with
        | iir => exact (by decide : 'A' ≠ ',')
        | eq => exact (by decide : 'C' ≠ ',')
        | mbadrc => exact (by decide : 'D' ≠ ',')
      simpa using ⟨hletter.symm, (hdigit y.device_id).symm⟩
  · rw [List.map_append, List.map_map, hfields, List.map_append]
    congr 1
    · apply List.map_congr_left
      exact fun f _ => f.uint16_alone
    · rw [List.map_singleton, hvalue, List.map_singleton]
  · intro h
    rw [hfields, List.map_append, htext h, List.map_singleton]

end Msm7x27a.Filter
