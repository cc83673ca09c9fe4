import Msm7x27a.Filter.Mapping

/-!
# The lines that are given

When `get_audpp_filter` stays inside the mapping and gives every line of the file.  It does if it stops
before it comes to an end of the file that it does not recognise: at a line that is refused, or at
a byte `0xFF` at the start of one; or if the file is well formed for it: no byte is 0, the last one is
a line feed, and the last page is not full.
-/

namespace Msm7x27a.Filter

open Msm7x27a.Bytes Msm7x27a.CString

/-- The lines of what line feeds separate: nothing need follow the last line feed. -/
def linesOf (pieces : List (List Byte)) : List (List Byte) :=
  if pieces.getLast? = some [] then pieces.dropLast else pieces

namespace File

variable (f : File)

/-- The lines of the file, also a last one without a line feed. -/
def lines : List (List Byte) := linesOf f.pieces

end File

/-- The loop has stayed inside the mapping, and if it has not ended at a byte `0xFF`, or at a line that
was refused, it has given all lines. -/
structure Reading.ReadsAll (y : Reading) (f : File) : Prop where
  inside : y.ending ≠ some .fault
  all : y.ending = some .noLineFeed → y.given = f.lines

/-- The loop stops at a line: it starts with `0xFF`, or it has its line feed and is refused. -/
def Stops (audioeq : Option EqCal) (pieces : List (List Byte)) : Prop :=
  ∃ before line after, pieces = before ++ line :: after ∧ (∀ l ∈ before, 0 ∉ l) ∧
    (line.head? = some EOF ∨ after ≠ [] ∧ 0 ∉ line ∧ result audioeq (text line) ≠ 0)

/-- The end of the file is where the loop looks for it. -/
structure File.WellFormed (f : File) : Prop where
  noZero : 0 ∉ f.content
  lastLine : f.content.getLast? = some lineFeed
  roomLeft : ¬f.pageSize ∣ f.content.length

section Pieces

variable {audioeq : Option EqCal} {full : Bool} {line piece rest : List Byte}
  {pieces : List (List Byte)} {T : Tables}

theorem linesOf_cons (line piece : List Byte) (pieces : List (List Byte)) :
    linesOf (line :: piece :: pieces) = line :: linesOf (piece :: pieces) := by
  unfold linesOf
  rw [List.getLast?_cons_cons, List.dropLast_cons_of_ne_nil (List.cons_ne_nil piece pieces)]
  split <;> rfl

theorem stops_last : Stops audioeq [rest] ↔ rest.head? = some EOF := by
  constructor
  · rintro ⟨before, line, after, he, -, hline⟩
    cases before with
    | nil =>
      obtain ⟨rfl, rfl⟩ := List.cons.inj he
      exact hline.resolve_right fun h => h.1 rfl
    | cons l before => simp at he
  · exact fun h => ⟨[], rest, [], rfl, by simp, .inl h⟩

theorem stops_cons : Stops audioeq (line :: piece :: pieces) ↔
    line.head? = some EOF ∨ 0 ∉ line ∧
      (result audioeq (text line) ≠ 0 ∨ Stops audioeq (piece :: pieces)) := by
  constructor
  · rintro ⟨before, l, after, he, hbefore, hl⟩
    cases before with
    | nil =>
      obtain ⟨rfl, rfl⟩ := List.cons.inj he
      rcases hl with hl | ⟨-, hzero, herr⟩
      · exact .inl hl
      · exact .inr ⟨hzero, .inl herr⟩
    | cons b before =>
      obtain ⟨rfl, hrest⟩ := List.cons.inj he
      refine .inr ⟨hbefore _ (List.mem_cons_self ..), .inr ⟨before, l, after, hrest, ?_, hl⟩⟩
      exact fun k hk => hbefore k (List.mem_cons_of_mem _ hk)
  · rintro (hhead | ⟨hzero, herr | ⟨before, l, after, he, hbefore, hl⟩⟩)
    · exact ⟨[], line, _, rfl, by simp, .inl hhead⟩
    · exact ⟨[], line, _, rfl, by simp, .inr ⟨List.cons_ne_nil piece pieces, hzero, herr⟩⟩
    · refine ⟨line :: before, l, after, congrArg (line :: ·) he, ?_, hl⟩
      intro k hk
      rcases List.mem_cons.1 hk with rfl | hk
      · exact hzero
      · exact hbefore k hk

/-- Only the last piece is left. -/
theorem readPieces_last_iff (line : List Byte) (T : Tables) :
    ((readPieces audioeq full [line] T).ending ≠ .fault ∧
      ((readPieces audioeq full [line] T).ending = .noLineFeed →
        (readPieces audioeq full [line] T).given = linesOf [line])) ↔
      Stops audioeq [line] ∨ 0 ∉ line ∧ line = [] ∧ full = false := by
  rw [stops_last]
  unfold readPieces
  by_cases hhead : line.head? = some EOF
  · rw [if_pos hhead]
    exact iff_of_true ⟨fun h => (by cases h), fun h => (by cases h)⟩ (.inl hhead)
  · rw [if_neg hhead, or_iff_right hhead]
    by_cases hfault : 0 ∉ line ∧ full = true
    · rw [if_pos hfault]
      refine iff_of_false (fun h => h.1 rfl) fun h => ?_
      rw [h.2.2] at hfault
      exact absurd hfault.2 Bool.false_ne_true
    · rw [if_neg hfault]
      by_cases hempty : line = []
      · subst hempty
        have hroom : full = false := by simpa using hfault
        exact iff_of_true ⟨fun h => (by cases h), fun _ => rfl⟩ ⟨by simp, rfl, hroom⟩
      · refine iff_of_false (fun h => ?_) fun h => hempty h.2.1
        have hgiven := h.2 rfl
        unfold linesOf at hgiven
        rw [if_neg (by simpa using hempty)] at hgiven
        cases hgiven

/-- **The loop over the lines** gives them all, or stops, exactly if it is stopped or comes to an end
that it recognises. -/
theorem readPieces_iff (hne : pieces ≠ []) (T : Tables) :
    ((readPieces audioeq full pieces T).ending ≠ .fault ∧
      ((readPieces audioeq full pieces T).ending = .noLineFeed →
        (readPieces audioeq full pieces T).given = linesOf pieces)) ↔
      Stops audioeq pieces ∨
        (∀ l ∈ pieces, 0 ∉ l) ∧ pieces.getLast? = some [] ∧ full = false := by
  induction pieces generalizing T with
  | nil => exact absurd rfl hne
  | cons line pieces ih =>
    cases pieces with
    | nil =>
      rw [readPieces_last_iff, List.getLast?_singleton, Option.some.injEq]
      simp only [List.forall_mem_singleton]
    | cons piece pieces =>
      have ih := ih (List.cons_ne_nil piece pieces)
      rw [stops_cons, List.getLast?_cons_cons, linesOf_cons]
      unfold readPieces
      by_cases hhead : line.head? = some EOF
      · rw [if_pos hhead]
        exact iff_of_true ⟨fun h => (by cases h), fun h => (by cases h)⟩ (.inl (.inl hhead))
      · rw [if_neg hhead, or_iff_right hhead]
        by_cases hzero : 0 ∈ line
        · rw [if_pos hzero]
          refine iff_of_false (fun h => by cases h.2 rfl) ?_
          rintro (h | h)
          · exact h.1 hzero
          · exact h.1 line (List.mem_cons_self ..) hzero
        · rw [if_neg hzero]
          dsimp only
          by_cases herr : (check_and_set_audpp_parameters audioeq (text line) T).2 ≠ 0
          · rw [if_pos herr]
            exact iff_of_true ⟨fun h => (by cases h), fun h => (by cases h)⟩
              (.inl ⟨hzero, .inl herr⟩)
          · have hok : ¬result audioeq (text line) ≠ 0 := herr
            rw [if_neg herr, or_iff_right hok, and_iff_right hzero]
            dsimp only
            have hall : (∀ l ∈ line :: piece :: pieces, 0 ∉ l) ↔ ∀ l ∈ piece :: pieces, 0 ∉ l := by
              rw [List.forall_mem_cons, and_iff_right hzero]
            simp only [List.cons.injEq, true_and]
            rw [ih, hall]

/-- A 0 in the file is one in what line feeds separate. -/
theorem zero_mem_pieces (c : List Byte) : 0 ∈ c ↔ ∃ l ∈ c.splitOn lineFeed, 0 ∈ l := by
  induction c using separated_induction lineFeed with
  | last t ht => simp [List.splitOn_eq_singleton ht]
  | column t l ht ih =>
    have hne : (0 : Byte) ≠ lineFeed := by decide
    rw [List.splitOn_append_cons_self_of_not_mem ht, List.exists_mem_cons_iff, ← ih, List.mem_append,
      List.mem_cons, or_iff_right hne]

/-- Nothing follows the last line feed. -/
theorem getLast_pieces (c : List Byte) :
    (c.splitOn lineFeed).getLast? = some [] ↔ c = [] ∨ c.getLast? = some lineFeed := by
  induction c using separated_induction lineFeed with
  | last t ht =>
    have hlast : t.getLast? ≠ some lineFeed := fun h => ht (List.mem_of_getLast? h)
    simp [List.splitOn_eq_singleton ht, hlast]
  | column t l ht ih =>
    obtain ⟨piece, pieces, hpieces⟩ := List.exists_cons_of_ne_nil (List.splitOn_ne_nil lineFeed l)
    rw [hpieces] at ih
    rw [List.splitOn_append_cons_self_of_not_mem ht, hpieces, List.getLast?_cons_cons, ih]
    cases l with
    | nil => simp
    | cons b l => simp

end Pieces

section Files

variable {f : File} {audioeq : Option EqCal} {calls : List Byte → ℕ} {T : Tables}

theorem wellFormed_iff : f.WellFormed ↔
    (∀ l ∈ f.pieces, 0 ∉ l) ∧ f.pieces.getLast? = some [] ∧ f.full = false := by
  have hzero : 0 ∉ f.content ↔ ∀ l ∈ f.pieces, 0 ∉ l := by
    rw [zero_mem_pieces f.content]
    simp only [not_exists, not_and]
    rfl
  have hlast : f.content.getLast? = some lineFeed ↔ f.pieces.getLast? = some [] :=
    ((getLast_pieces f.content).trans (or_iff_right f.nonempty)).symm
  have hroom : ¬f.pageSize ∣ f.content.length ↔ f.full = false := by
    unfold File.full
    rw [decide_eq_false_iff_not]
  rw [← hzero, ← hlast, ← hroom]
  exact ⟨fun h => ⟨h.noZero, h.lastLine, h.roomLeft⟩, fun h => ⟨h.1, h.2.1, h.2.2⟩⟩

/-- **Reading the file.** The loop ends; it stays inside the mapping and gives every line once, or is
stopped, exactly if it stops at a line or the file is well formed. -/
theorem reads_file_iff (f : File) (audioeq : Option EqCal) (calls : List Byte → ℕ) (T : Tables) :
    (∃ y, f.read audioeq calls T = some y ∧ y.ReadsAll f) ↔
      Stops audioeq f.pieces ∨ f.WellFormed := by
  obtain ⟨y, hy, hreach⟩ := f.read_reaches audioeq calls T
  have hall : y.ReadsAll f ↔ Stops audioeq f.pieces ∨ f.WellFormed := by
    have hpieces : f.pieces ≠ [] := List.splitOn_ne_nil lineFeed f.content
    rw [wellFormed_iff, ← readPieces_iff hpieces T]
    constructor
    · rintro ⟨hinside, hall⟩
      rw [hreach.ending] at hinside hall
      refine ⟨fun h => hinside (congrArg some h), fun h => ?_⟩
      have hgiven := hall (congrArg some h)
      rw [hreach.given] at hgiven
      exact hgiven
    · rintro ⟨hinside, hall⟩
      refine ⟨?_, ?_⟩
      · rw [hreach.ending]
        exact fun h => hinside (Option.some.inj h)
      · rw [hreach.ending, hreach.given]
        exact fun h => hall (Option.some.inj h)
  rw [← hall]
  constructor
  · rintro ⟨y', hy', h⟩
    rw [hy] at hy'
    exact Option.some.inj hy' ▸ h
  · exact fun h => ⟨y, hy, h⟩

/-! ### The loop over the lines that are cut out -/

theorem cutLines_cons (line piece : List Byte) (pieces : List (List Byte)) :
    cutLines (line :: piece :: pieces) =
      if line.head? ≠ some EOF ∧ 0 ∉ line then line :: cutLines (piece :: pieces) else [] := by
  unfold cutLines
  rw [List.dropLast_cons_of_ne_nil (List.cons_ne_nil piece pieces), List.takeWhile_cons]
  simp only [decide_eq_true_eq]

theorem readPieces_eq (full : Bool) (pieces : List (List Byte)) (T : Tables) :
    ((readPieces audioeq full pieces T).tables,
        if (readPieces audioeq full pieces T).ending = .failed then (-1 : Int) else 0) =
      get_audpp_filter audioeq ((cutLines pieces).map text) T := by
  induction pieces generalizing T with
  | nil => rfl
  | cons line pieces ih =>
    cases pieces with
    | nil =>
      unfold readPieces
      split
      · rfl
      · split <;> rfl
    | cons piece pieces =>
      rw [cutLines_cons]
      unfold readPieces
      by_cases hhead : line.head? = some EOF
      · have hcut : ¬(line.head? ≠ some EOF ∧ 0 ∉ line) := fun h => h.1 hhead
        rw [if_pos hhead, if_neg hcut]
        rfl
      · rw [if_neg hhead]
        by_cases hzero : 0 ∈ line
        · have hcut : ¬(line.head? ≠ some EOF ∧ 0 ∉ line) := fun h => h.2 hzero
          rw [if_pos hzero, if_neg hcut]
          rfl
        · have hcut : line.head? ≠ some EOF ∧ 0 ∉ line := ⟨hhead, hzero⟩
          rw [if_neg hzero, if_pos hcut, List.map_cons]
          unfold get_audpp_filter
          dsimp only
          split
          · rfl
          · exact ih _

/-- The tables and the value are what `get_audpp_filter` makes of the lines that are cut out. -/
theorem read_eq {y : Reading} (h : f.read audioeq calls T = some y) :
    (y.tables, y.value) = get_audpp_filter audioeq ((cutLines f.pieces).map text) T := by
  obtain ⟨y', hy', hreach⟩ := f.read_reaches audioeq calls T
  rw [h] at hy'
  obtain rfl := Option.some.inj hy'
  rw [← readPieces_eq f.full, ← hreach.tables]
  unfold Reading.value
  simp only [hreach.ending, Option.some.injEq]

end Files

/-! ### Files that are not read as a whole -/

/-- A line that is no record, in a file without a line feed. -/
def bareFile : File where
  content := [0x23]
  nonempty := by decide
  pageSize := 4096
  pageSize_pos := by decide

/-- The same on a line that fills a page with its line feed. -/
def pageFile : File where
  content := List.replicate 4095 0x23 ++ [lineFeed]
  nonempty := List.append_ne_nil_of_right_ne_nil _ (List.cons_ne_nil lineFeed [])
  pageSize := 4096
  pageSize_pos := by decide

theorem pieces_pageFile : pageFile.pieces = [List.replicate 4095 0x23, []] := by
  have hfeed : lineFeed ∉ List.replicate 4095 (0x23 : Byte) := by
    intro h
    exact absurd (List.eq_of_mem_replicate h) (by decide)
  exact List.splitOn_append_cons_self_of_not_mem hfeed []

theorem full_pageFile : pageFile.full = true := by
  have hlen : pageFile.content.length = 4096 := by
    unfold pageFile
    rw [List.length_append, List.length_replicate]
    rfl
  unfold File.full
  rw [hlen]
  rfl

/-- The line without a line feed is not given, and behind the full page the loop leaves the mapping. -/
theorem misreads_files :
    (¬∃ y, bareFile.read none (fun _ => 0) (fun _ => 0) = some y ∧ y.ReadsAll bareFile) ∧
      ¬∃ y, pageFile.read none (fun _ => 0) (fun _ => 0) = some y ∧ y.ReadsAll pageFile := by
  constructor
  · rintro ⟨y, hy, hall⟩
    obtain ⟨y', hy', hreach⟩ := bareFile.read_reaches none (fun _ => 0) (fun _ => 0)
    obtain rfl := Option.some.inj (hy.symm.trans hy')
    have hgiven : y.given = [] := hreach.given
    have hlines : y.given = [[0x23]] := hall.all hreach.ending
    rw [hgiven] at hlines
    cases hlines
  · rintro ⟨y, hy, hall⟩
    obtain ⟨y', hy', hreach⟩ := pageFile.read_reaches none (fun _ => 0) (fun _ => 0)
    obtain rfl := Option.some.inj (hy.symm.trans hy')
    have hzero : (0 : Byte) ∉ List.replicate 4095 (0x23 : Byte) := by
      intro h
      exact absurd (List.eq_of_mem_replicate h) (by decide)
    have hrecord : ¬(check_and_set_audpp_parameters none (text (List.replicate 4095 0x23))
        fun _ => 0).2 ≠ 0 := fun h => h rfl
    have hending := hreach.ending
    rw [pieces_pageFile, full_pageFile] at hending
    unfold readPieces at hending
    rw [if_neg (by decide), if_neg hzero] at hending
    dsimp only at hending
    rw [if_neg hrecord] at hending
    exact hall.inside hending

end Msm7x27a.Filter
