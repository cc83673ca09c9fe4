import Msm7x27a.Filter.Parameters
import Msm7x27a.Lib.CString
import Msm7x27a.Lib.Loops

/-!
# Reading the mapped file

`get_audpp_filter` on the pages that `AudioFilter.csv` is mapped to, byte by byte: it looks for a line
feed, puts a 0 in its place and gives the line to `check_and_set_audpp_parameters`.  A line that no
line feed ends is not given, and where the file fills its last page nothing ends the search inside the
mapping.
-/

namespace Msm7x27a.Filter

open Msm7x27a.Bytes Msm7x27a.CString Msm7x27a.Loops

/-- `(char)EOF` -/
def EOF : Byte := 0xFF

def lineFeed : Byte := 0x0A

def comma : Byte := 0x2C

/-- A line as characters. -/
def text (line : List Byte) : List Char := line.map fun b => Char.ofNat b.toNat

/-- A file that is not empty, and the size of a page. -/
structure File where
  content : List Byte
  nonempty : content ≠ []
  pageSize : ℕ
  pageSize_pos : 0 < pageSize

/-- How the loop over the lines ends. -/
inductive Ending where
  | fault | eof | noLineFeed | failed
  deriving DecidableEq

/-- Where the loop is: the mapping, `current_str`, the lines given so far, and the tables. -/
structure Reading where
  memory : Region
  current_str : ℕ
  given : List (List Byte)
  tables : Tables
  ending : Option Ending

namespace File

variable (f : File)

/-- The pages of the file: its bytes, and zeros up to the end of the last page. -/
def mapped : Region where
  size := (f.content.length + f.pageSize - 1) / f.pageSize * f.pageSize
  byte i := f.content.getD i 0

def start (T : Tables) : Reading where
  memory := f.mapped
  current_str := 0
  given := []
  tables := T
  ending := none

/-- What line feeds separate: the lines, and what follows the last line feed. -/
def pieces : List (List Byte) := f.content.splitOn lineFeed

end File

section Loop

/-- The memory that `check_and_set_audpp_parameters` touches: the letter of the record, its index, and
the string, by `strtok` and by `strtol` on the tokens.  How often it calls `strtok` is left open. -/
def touchLine (calls : ℕ) (m : Region) (buf : ℕ) : Option (List (List Byte) × Region) :=
  match m.read buf with
  | none => none
  | some letter =>
    if 0x41 ≤ letter ∧ letter ≤ 0x47 then
      match m.read (buf + 1) with
      | none => none
      | some _ => tokenise comma calls (some buf) m
    else some ([], m)

variable (audioeq : Option EqCal) (calls : List Byte → ℕ)

namespace Reading

variable (x : Reading)

/-- `check_and_set_audpp_parameters(current_str, len)` on a line that ends at `next_str`. -/
def checkLine (m : Region) (next_str : ℕ) : Option Reading :=
  let len := next_str - x.current_str
  let line := m.slice x.current_str len
  match touchLine (calls line) m x.current_str with
  | none => none
  | some (_, m) =>
    let (tables, err) := check_and_set_audpp_parameters audioeq (text line) x.tables
    some { memory := m, current_str := next_str + 1, given := x.given ++ [line], tables := tables,
           ending := if err ≠ 0 then some .failed else none }

/-- One turn of the loop; an access that faults gives none. -/
def body : Option Reading :=
  match x.memory.read x.current_str with
  | none => none
  | some c =>
    if c = EOF then some { x with ending := some .eof }
    else
      match x.memory.strchr lineFeed x.current_str with
      | none => none
      | some none => some { x with ending := some .noLineFeed }
      | some (some next_str) =>
        match x.memory.write next_str 0 with
        | none => none
        | some m => x.checkLine audioeq calls m next_str

def turn : Option Reading :=
  if x.ending.isSome then none
  else some ((x.body audioeq calls).getD { x with ending := some .fault })

end Reading

/-- `get_audpp_filter` from the mapping on, in at most as many turns as there are bytes and two. -/
def File.read (f : File) (T : Tables) : Option Reading :=
  iterate (Reading.turn audioeq calls) (f.content.length + 2) (f.start T)

/-- What it returns, if nothing faults. -/
def Reading.value (x : Reading) : Int := if x.ending = some .failed then -1 else 0

end Loop

/-! ### A line in memory -/

variable {m m' : Region} {a : ℕ} {line c : List Byte}

/-- From `a` on the memory has these bytes, and then zeros. -/
structure Tail (m : Region) (a : ℕ) (c : List Byte) : Prop where
  slice : m.slice a c.length = c
  zeros : ∀ i, a + c.length ≤ i → i < m.size → m.byte i = 0
  fits : a + c.length ≤ m.size

/-- What has not changed from the next line on. -/
theorem Tail.next {b : ℕ} (h : Tail m a (line ++ lineFeed :: c)) (hsame : SameOutside a b m m')
    (hb : b ≤ a + line.length + 1) : Tail m' (a + line.length + 1) c := by
  have hlen : a + (line ++ lineFeed :: c).length = a + line.length + 1 + c.length := by
    rw [List.length_append, List.length_cons]
    omega
  have hrest := (slice_append h.slice).2
  rw [List.length_cons, slice_succ] at hrest
  constructor
  · rw [hsame.slice hb]
    exact (List.cons.inj hrest).2
  · intro i hi hlt
    rw [hsame.byte i (.inr (by omega))]
    exact h.zeros i (hlen ▸ hi) (hsame.size ▸ hlt)
  · rw [hsame.size, ← hlen]
    exact h.fits

/-- The bytes that are read as a comma. -/
theorem comma_mem_text (t : List Byte) : ',' ∈ text t ↔ comma ∈ t := by
  have hcomma : ∀ b : Byte, Char.ofNat b.toNat = ',' ↔ b = comma := by decide +kernel
  unfold text
  simp only [List.mem_map, hcomma]
  constructor
  · rintro ⟨b, hb, rfl⟩
    exact hb
  · exact fun h => ⟨comma, h, rfl⟩

/-- The columns in memory are the tokens that the scanner of the record walks along. -/
theorem tokens_text (line : List Byte) : tokens (text line) = (columns comma line).map text := by
  have htokens : ∀ buf, tokens buf = columns ',' buf := fun _ => rfl
  have hempty : ∀ t : List Byte, text t = [] ↔ t = [] := fun t => List.map_eq_nil_iff
  rw [htokens]
  induction line using separated_induction comma with
  | last t ht =>
    have ht' : ',' ∉ text t := fun h => ht ((comma_mem_text t).1 h)
    by_cases hnil : t = []
    · subst hnil
      rfl
    · rw [columns_last hnil ht, columns_last (fun h => hnil ((hempty t).1 h)) ht']
      rfl
  | column t l ht ih =>
    have ht' : ',' ∉ text t := fun h => ht ((comma_mem_text t).1 h)
    have happend : text (t ++ comma :: l) = text t ++ ',' :: text l := List.map_append
    rw [happend]
    by_cases hnil : t = []
    · subst hnil
      rw [List.nil_append, columns_sep, ← ih]
      exact columns_sep ',' (text l)
    · rw [columns_column hnil ht, columns_column (fun h => hnil ((hempty t).1 h)) ht', ih]
      rfl

/-- On the line of a record, which ends with a 0, `strtok` finds its columns and touches it alone. -/
theorem touchLine_record (calls : ℕ) (hletter : 0x41 ≤ m.byte a ∧ m.byte a ≤ 0x47) (hzero : 0 ∉ line)
    (h : m.slice a line.length = line) (hend : m.byte (a + line.length) = 0)
    (hsize : a + line.length < m.size) :
    ∃ m', touchLine calls m a = some ((columns comma line).take calls, m') ∧
      SameOutside a (a + line.length) m m' := by
  have hread : m.read a = some (m.byte a) := if_pos (by omega)
  have hne : line ≠ [] := by
    rintro rfl
    have hend : m.byte a = 0 := hend
    rw [hend] at hletter
    exact absurd hletter.1 (by decide)
  have hlen := List.length_pos_of_ne_nil hne
  have hindex : m.read (a + 1) = some (m.byte (a + 1)) := if_pos (by omega)
  have hcomma : comma ≠ 0 := by decide
  obtain ⟨m', htokens, hsame⟩ := tokenise_eq hcomma hzero h hend hsize calls
  refine ⟨m', ?_, hsame⟩
  unfold touchLine
  rw [hread]
  dsimp only
  rw [if_pos hletter, hindex]
  exact htokens

/-- Whatever the line is, `check_and_set_audpp_parameters` touches it alone. -/
theorem touchLine_eq (calls : ℕ) (hzero : 0 ∉ line) (h : m.slice a line.length = line)
    (hend : m.byte (a + line.length) = 0) (hsize : a + line.length < m.size) :
    ∃ ts m', touchLine calls m a = some (ts, m') ∧ SameOutside a (a + line.length) m m' := by
  by_cases hletter : 0x41 ≤ m.byte a ∧ m.byte a ≤ 0x47
  · obtain ⟨m', htouch, hsame⟩ := touchLine_record calls hletter hzero h hend hsize
    exact ⟨_, m', htouch, hsame⟩
  · have hread : m.read a = some (m.byte a) := if_pos (by omega)
    refine ⟨[], m, ?_, .refl ..⟩
    unfold touchLine
    rw [hread]
    exact if_neg hletter

/-! ### A turn -/

/-- The loop over what line feeds separate.  `full` says that the file fills its last page. -/
structure Outcome where
  ending : Ending
  given : List (List Byte)
  tables : Tables

/-- What becomes of the lines, and of what follows the last line feed. -/
def readPieces (audioeq : Option EqCal) (full : Bool) : List (List Byte) → Tables → Outcome
  | [], T => ⟨.noLineFeed, [], T⟩
  | [rest], T =>
    if rest.head? = some EOF then ⟨.eof, [], T⟩
    else if 0 ∉ rest ∧ full then ⟨.fault, [], T⟩
    else ⟨.noLineFeed, [], T⟩
  | line :: piece :: pieces, T =>
    if line.head? = some EOF then ⟨.eof, [], T⟩
    else if 0 ∈ line then ⟨.noLineFeed, [], T⟩
    else
      let (tables, err) := check_and_set_audpp_parameters audioeq (text line) T
      if err ≠ 0 then ⟨.failed, [line], tables⟩
      else
        let o := readPieces audioeq full (piece :: pieces) tables
        ⟨o.ending, line :: o.given, o.tables⟩

/-- The lines that are cut out of the file, if none is refused. -/
def cutLines (pieces : List (List Byte)) : List (List Byte) :=
  pieces.dropLast.takeWhile fun line => line.head? ≠ some EOF ∧ 0 ∉ line

section Body

variable (audioeq : Option EqCal) (calls : List Byte → ℕ) {x : Reading}

/-- The first byte, if there is one. -/
theorem byte_of_head {b : Byte} (h : m.slice a c.length = c) (hhead : c.head? = some b) :
    m.byte a = b := by
  obtain ⟨c, rfl⟩ := List.head?_eq_some_iff.1 hhead
  rw [List.length_cons, slice_succ] at h
  exact (List.cons.inj h).1

theorem head_of_byte {b : Byte} (h : m.slice a c.length = c) (hne : c ≠ []) (hbyte : m.byte a = b) :
    c.head? = some b := by
  obtain ⟨y, c, rfl⟩ := List.exists_cons_of_ne_nil hne
  rw [List.length_cons, slice_succ] at h
  rw [List.head?_cons, ← (List.cons.inj h).1, hbyte]

/-- The byte `0xFF` at the start of a line ends the loop. -/
theorem body_eof (h : Tail x.memory x.current_str c) (hhead : c.head? = some EOF) :
    x.body audioeq calls = some { x with ending := some .eof } := by
  have hne : c ≠ [] := by
    rintro rfl
    cases hhead
  have hlen := List.length_pos_of_ne_nil hne
  have hfits := h.fits
  have hread : x.memory.read x.current_str = some EOF := by
    rw [Region.read, if_pos (by omega), byte_of_head h.slice hhead]
  unfold Reading.body
  rw [hread]
  exact if_pos rfl

/-- The rest of the loop, where the line does not start with `0xFF`. -/
theorem body_search (h : Tail x.memory x.current_str c) (hhead : c.head? ≠ some EOF)
    (hlt : x.current_str < x.memory.size) : x.body audioeq calls =
      match x.memory.strchr lineFeed x.current_str with
      | none => none
      | some none => some { x with ending := some .noLineFeed }
      | some (some next_str) =>
        match x.memory.write next_str 0 with
        | none => none
        | some m => x.checkLine audioeq calls m next_str := by
  have hread : x.memory.read x.current_str = some (x.memory.byte x.current_str) := if_pos hlt
  have hne : x.memory.byte x.current_str ≠ EOF := by
    intro he
    by_cases hempty : c = []
    · subst hempty
      have hzero := h.zeros x.current_str (by simp) hlt
      rw [hzero] at he
      exact absurd he (by decide)
    · exact hhead (head_of_byte h.slice hempty he)
  unfold Reading.body
  rw [hread]
  exact if_neg hne

/-- A 0 before the next line feed, or behind the file, ends the search and the loop. -/
theorem body_noLineFeed (h : Tail x.memory x.current_str c) (hhead : c.head? ≠ some EOF)
    (hslice : x.memory.slice x.current_str line.length = line) (hzero : 0 ∉ line)
    (hfeed : lineFeed ∉ line) (hend : x.memory.byte (x.current_str + line.length) = 0)
    (hsize : x.current_str + line.length < x.memory.size) :
    x.body audioeq calls = some { x with ending := some .noLineFeed } := by
  rw [body_search audioeq calls h hhead (by omega),
    strchr_absent (by decide) hslice hzero hfeed hend hsize]

/-- Without a line feed and without a byte behind the file the loop leaves the mapping. -/
theorem body_fault (h : Tail x.memory x.current_str c) (hhead : c.head? ≠ some EOF) (hzero : 0 ∉ c)
    (hfeed : lineFeed ∉ c) (hfull : x.memory.size = x.current_str + c.length) :
    x.body audioeq calls = none := by
  by_cases hlt : x.current_str < x.memory.size
  · have hgo : ∀ i, x.current_str ≤ i → i < x.memory.size →
        (x.memory.byte i == lineFeed || x.memory.byte i == 0) = false := by
      intro i hi hisize
      have hmem : x.memory.byte i ∈ c := by
        rw [← h.slice]
        exact List.mem_map.2 ⟨i, List.mem_range'_1.2 ⟨hi, by omega⟩, rfl⟩
      have hl : x.memory.byte i ≠ lineFeed := fun e => hfeed (e ▸ hmem)
      have h0 : x.memory.byte i ≠ 0 := fun e => hzero (e ▸ hmem)
      rw [beq_false_of_ne hl, beq_false_of_ne h0]
      rfl
    have hfault : x.memory.strchr lineFeed x.current_str = none := by
      unfold Region.strchr
      rw [find_fault hgo]
    rw [body_search audioeq calls h hhead hlt, hfault]
  · have hread : x.memory.read x.current_str = none := if_neg hlt
    unfold Reading.body
    rw [hread]

/-- The line was given, and `c` is left to read. -/
structure LineGiven (audioeq : Option EqCal) (x : Reading) (line c : List Byte) (x' : Reading) :
    Prop where
  tail : Tail x'.memory x'.current_str c
  size : x'.memory.size = x.memory.size
  current_str : x'.current_str = x.current_str + line.length + 1
  given : x'.given = x.given ++ [line]
  tables : x'.tables = (check_and_set_audpp_parameters audioeq (text line) x.tables).1
  ending : x'.ending =
    if (check_and_set_audpp_parameters audioeq (text line) x.tables).2 ≠ 0 then some .failed else none

/-- A line that ends with a line feed is given. -/
theorem body_line (h : Tail x.memory x.current_str (line ++ lineFeed :: c))
    (hhead : (line ++ lineFeed :: c).head? ≠ some EOF) (hzero : 0 ∉ line) (hfeed : lineFeed ∉ line) :
    ∃ x', x.body audioeq calls = some x' ∧ LineGiven audioeq x line c x' := by
  obtain ⟨hslice, hrest⟩ := slice_append h.slice
  have hfits := h.fits
  rw [List.length_append, List.length_cons] at hfits
  have hsize : x.current_str + line.length < x.memory.size := by omega
  rw [List.length_cons, slice_succ] at hrest
  obtain ⟨m1, hwrite⟩ := write_eq hsize 0
  have hsame := write_same hwrite
  have hslice1 : m1.slice x.current_str line.length = line := by
    rw [slice_congr fun i _ hi => hsame.byte i (.inl hi)]
    exact hslice
  obtain ⟨ts, m, htouch, hsame'⟩ := touchLine_eq (calls line) hzero hslice1 (byte_write hwrite)
    (hsame.size ▸ hsize)
  have hfront : SameOutside x.current_str (x.current_str + line.length + 1) x.memory m1 :=
    ⟨hsame.size, fun i hi => hsame.byte i (hi.imp (fun h => by omega) id)⟩
  have hall := hfront.trans hsame' (Nat.le_refl _) (Nat.le_succ _)
  have hbody : x.body audioeq calls = some
      { memory := m, current_str := x.current_str + line.length + 1, given := x.given ++ [line],
        tables := (check_and_set_audpp_parameters audioeq (text line) x.tables).1,
        ending := if (check_and_set_audpp_parameters audioeq (text line) x.tables).2 ≠ 0 then
          some .failed else none } := by
    rw [body_search audioeq calls h hhead (by omega),
      strchr_found hslice hzero hfeed (List.cons.inj hrest).1 hsize]
    dsimp only
    rw [hwrite]
    unfold Reading.checkLine
    dsimp only
    rw [Nat.add_sub_cancel_left, hslice1, htouch]
  exact ⟨_, hbody, h.next hall (Nat.le_refl _), hall.size, rfl, rfl, rfl, rfl⟩

variable {audioeq calls}

/-- The loop has ended as the outcome says. -/
structure Reaches (x : Reading) (o : Outcome) (y : Reading) : Prop where
  ending : y.ending = some o.ending
  given : y.given = x.given ++ o.given
  tables : y.tables = o.tables

theorem turn_of_body {x' : Reading} (hx : x.ending = none) (hbody : x.body audioeq calls = some x') :
    x.turn audioeq calls = some x' := by
  unfold Reading.turn
  rw [if_neg (by simp [hx]), hbody]
  rfl

/-- A turn that ends the loop. -/
theorem iterate_ends {e : Ending} (hx : x.ending = none)
    (hbody : (x.body audioeq calls).getD { x with ending := some .fault } = { x with ending := some e })
    (fuel : ℕ) : ∃ y, iterate (Reading.turn audioeq calls) (fuel + 2) x = some y ∧
      Reaches x ⟨e, [], x.tables⟩ y := by
  have hturn : x.turn audioeq calls = some { x with ending := some e } := by
    unfold Reading.turn
    rw [if_neg (by simp [hx]), hbody]
  refine ⟨{ x with ending := some e }, ?_, rfl, (List.append_nil _).symm, rfl⟩
  rw [iterate_succ hturn]
  exact iterate_end rfl

/-- A 0 in the file ends the loop where no line feed is before it. -/
theorem iterate_zero (hx : x.ending = none) (h : Tail x.memory x.current_str c)
    (hhead : c.head? ≠ some EOF) {rest : List Byte} (hc : c = line ++ 0 :: rest)
    (hzero : 0 ∉ line) (hfeed : lineFeed ∉ line) (fuel : ℕ) :
    ∃ y, iterate (Reading.turn audioeq calls) (fuel + 2) x = some y ∧
      Reaches x ⟨.noLineFeed, [], x.tables⟩ y := by
  subst hc
  obtain ⟨hslice, hrest⟩ := slice_append h.slice
  have hfits := h.fits
  rw [List.length_append, List.length_cons] at hfits
  rw [List.length_cons, slice_succ] at hrest
  have hbody := body_noLineFeed audioeq calls h hhead hslice hzero hfeed
    (List.cons.inj hrest).1 (by omega)
  exact iterate_ends hx (congrArg (Option.getD · _) hbody) fuel

/-- What follows the last line feed. -/
theorem iterate_last {full : Bool} (hx : x.ending = none) (h : Tail x.memory x.current_str c)
    (hfull : x.memory.size = x.current_str + c.length ↔ full = true) (hfeed : lineFeed ∉ c) (fuel : ℕ) :
    ∃ y, iterate (Reading.turn audioeq calls) (fuel + 2) x = some y ∧
      Reaches x (readPieces audioeq full [c] x.tables) y := by
  unfold readPieces
  split
  next hhead => exact iterate_ends hx (congrArg (Option.getD · _) (body_eof audioeq calls h hhead)) fuel
  next hhead =>
    by_cases hzero : 0 ∈ c
    · obtain ⟨line, rest, hc, hline⟩ := List.eq_append_cons_of_mem hzero
      have hline' : lineFeed ∉ line := fun hmem => hfeed (hc ▸ List.mem_append_left _ hmem)
      rw [if_neg fun hno => hno.1 hzero]
      exact iterate_zero hx h hhead hc hline hline' fuel
    · split
      next hno =>
        have hbody := body_fault audioeq calls h hhead hzero hfeed
          (hfull.2 hno.2)
        exact iterate_ends hx (congrArg (Option.getD · _) hbody) fuel
      next hno =>
        have hfits := h.fits
        have hsize : x.current_str + c.length < x.memory.size := by
          have hne : x.memory.size ≠ x.current_str + c.length := fun e => hno ⟨hzero, hfull.1 e⟩
          omega
        have hbody := body_noLineFeed audioeq calls h hhead h.slice hzero hfeed
          (h.zeros _ (Nat.le_refl _) hsize) hsize
        exact iterate_ends hx (congrArg (Option.getD · _) hbody) fuel

/-- The line is refused, which ends the loop. -/
theorem iterate_refused {x' : Reading} {rest : List Byte} (hx : x.ending = none)
    (hbody : x.body audioeq calls = some x') (hgiven : LineGiven audioeq x line rest x')
    (herr : (check_and_set_audpp_parameters audioeq (text line) x.tables).2 ≠ 0) (fuel : ℕ) :
    ∃ y, iterate (Reading.turn audioeq calls) (fuel + 2) x = some y ∧
      Reaches x ⟨.failed, [line], (check_and_set_audpp_parameters audioeq (text line) x.tables).1⟩ y := by
  have hended : x'.turn audioeq calls = none := by
    unfold Reading.turn
    rw [hgiven.ending, if_pos herr]
    rfl
  refine ⟨x', ?_, ?_, hgiven.given, hgiven.tables⟩
  · rw [iterate_succ (turn_of_body hx hbody)]
    exact iterate_end hended
  · rw [hgiven.ending, if_pos herr]

/-- `EOF` is looked for at the start of the line. -/
theorem head_line (line rest : List Byte) :
    (line ++ lineFeed :: rest).head? = some EOF ↔ line.head? = some EOF := by
  cases line with
  | nil => exact iff_of_false (fun h => absurd (Option.some.inj h) (by decide)) fun h => by cases h
  | cons b line => exact Iff.rfl

/-- **The loop over the bytes is the loop over the lines.** It ends, as `readPieces` says. -/
theorem iterate_turn {full : Bool} (hx : x.ending = none) (h : Tail x.memory x.current_str c)
    (hfull : x.memory.size = x.current_str + c.length ↔ full = true) {fuel : ℕ}
    (hfuel : c.length + 2 ≤ fuel) :
    ∃ y, iterate (Reading.turn audioeq calls) fuel x = some y ∧
      Reaches x (readPieces audioeq full (c.splitOn lineFeed) x.tables) y := by
  induction c using separated_induction lineFeed generalizing x fuel with
  | last c hfeed =>
    obtain ⟨fuel, rfl⟩ : ∃ k, fuel = k + 2 := ⟨fuel - 2, by omega⟩
    rw [List.splitOn_eq_singleton hfeed]
    exact iterate_last hx h hfull hfeed fuel
  | column line rest hline ih =>
    obtain ⟨fuel, rfl⟩ : ∃ k, fuel = k + 2 := ⟨fuel - 2, by omega⟩
    obtain ⟨piece, pieces, hpieces⟩ := List.exists_cons_of_ne_nil (List.splitOn_ne_nil lineFeed rest)
    have hheads := head_line line rest
    rw [List.splitOn_append_cons_self_of_not_mem hline, hpieces]
    rw [List.length_append, List.length_cons] at hfuel hfull
    unfold readPieces
    split
    next hhead =>
      exact iterate_ends hx (congrArg (Option.getD · _) (body_eof audioeq calls h (hheads.2 hhead))) fuel
    next hhead =>
      split
      next hzero =>
        obtain ⟨front, back, rfl, hfront⟩ := List.eq_append_cons_of_mem hzero
        have hc : front ++ 0 :: back ++ lineFeed :: rest = front ++ 0 :: (back ++ lineFeed :: rest) := by
          rw [List.append_assoc, List.cons_append]
        exact iterate_zero hx h (fun e => hhead (hheads.1 e)) hc hfront
          (fun hmem => hline (List.mem_append_left _ hmem)) fuel
      next hzero =>
        obtain ⟨x', hbody, hgiven⟩ := body_line audioeq calls h
          (fun e => hhead (hheads.1 e)) hzero hline
        dsimp only
        split
        next herr => exact iterate_refused hx hbody hgiven herr fuel
        next herr =>
          have hsize : x'.memory.size = x'.current_str + rest.length ↔ full = true := by
            rw [hgiven.size, hgiven.current_str, ← hfull]
            omega
          have hlive : x'.ending = none := by rw [hgiven.ending, if_neg herr]
          have hfuel' : rest.length + 2 ≤ fuel + 1 := by omega
          obtain ⟨y, hy, hreach⟩ := ih hlive hgiven.tail hsize hfuel'
          rw [hpieces, hgiven.tables] at hreach
          refine ⟨y, (iterate_succ (turn_of_body hx hbody)).trans hy, hreach.ending, ?_, hreach.tables⟩
          rw [hreach.given, hgiven.given, List.append_assoc]
          rfl

end Body

/-! ### The file -/

section Whole

variable (f : File) (audioeq : Option EqCal) (calls : List Byte → ℕ) (T : Tables)

/-- The file fills its last page. -/
def File.full : Bool := f.pageSize ∣ f.content.length

theorem File.length_le_mapped : f.content.length ≤ f.mapped.size := by
  have hpos := f.pageSize_pos
  have hdiv := Nat.div_add_mod (f.content.length + f.pageSize - 1) f.pageSize
  have hmod := Nat.mod_lt (f.content.length + f.pageSize - 1) hpos
  have hsize : f.mapped.size =
      f.pageSize * ((f.content.length + f.pageSize - 1) / f.pageSize) := Nat.mul_comm ..
  rw [hsize]
  omega

theorem File.mapped_eq_iff : f.mapped.size = f.content.length ↔ f.full = true := by
  unfold File.full
  rw [decide_eq_true_iff]
  constructor
  · intro h
    rw [← h]
    exact Nat.dvd_mul_left ..
  · rintro ⟨k, hk⟩
    have hpos := f.pageSize_pos
    have hlast : f.pageSize * k + f.pageSize - 1 = f.pageSize * k + (f.pageSize - 1) := by omega
    have hpages : (f.content.length + f.pageSize - 1) / f.pageSize = k := by
      rw [hk, hlast, Nat.mul_add_div hpos, Nat.div_eq_of_lt (by omega), Nat.add_zero]
    calc f.mapped.size = k * f.pageSize := congrArg (· * f.pageSize) hpages
      _ = f.content.length := by rw [hk, Nat.mul_comm]

theorem File.tail_mapped : Tail f.mapped 0 f.content := by
  refine ⟨?_, ?_, by rw [Nat.zero_add]; exact f.length_le_mapped⟩
  · unfold Memory.slice
    apply List.ext_getElem
    · rw [List.length_map, List.length_range']
    · intro i hi hi'
      rw [List.getElem_map, List.getElem_range', Nat.zero_add, Nat.one_mul]
      exact (List.getElem_eq_getD 0).symm
  · intro i hi _
    rw [Nat.zero_add] at hi
    have hbyte : f.mapped.byte i = f.content.getD i 0 := rfl
    rw [hbyte, List.getD_eq_getElem?_getD, List.getElem?_eq_none hi]
    rfl

/-- The loop ends, as the loop over the lines does. -/
theorem File.read_reaches : ∃ y, f.read audioeq calls T = some y ∧
    Reaches (f.start T) (readPieces audioeq f.full f.pieces T) y := by
  have hfull : f.mapped.size = 0 + f.content.length ↔ f.full = true := by
    rw [Nat.zero_add]
    exact f.mapped_eq_iff
  exact iterate_turn (x := f.start T) rfl f.tail_mapped hfull (Nat.le_refl _)

end Whole

end Msm7x27a.Filter
