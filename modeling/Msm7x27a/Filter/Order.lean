import Msm7x27a.Filter.Stores

/-!
# Lines of different records do not interfere

Every table that a record stores to belongs to the record's letter and its digit, apart from three
cells that all records of a letter use in passing, and from the masks of the preprocessing, which only
gain bits.  So the order of lines with different letters or digits does not matter.
-/

namespace Msm7x27a.Filter

open Msm7x27a.Cells Msm7x27a.Scan

/-- The letter and the digit of a line, if it is a record. -/
def keyOf (buf : List Char) : Option (Char × Char) :=
  if 'A' ≤ charAt buf 0 && charAt buf 0 ≤ 'G' then some (charAt buf 0, charAt buf 1) else none

namespace Cell

/-- The key of the records that store to the cell. -/
def owner : Cell → Option (Char × Char)
  | iir_cfg d _ | rx_iir_flag d => some ('A', digitOf d)
  | adrc_cfg d _ | adrc_flag d | adrc_filter_exists d => some ('B', digitOf d)
  | equalizer d _ | eq_flag d => some ('C', digitOf d)
  | mbadrc_cfg d _ | mbadrc_flag d | mbadrc_filter_exists d => some ('D', digitOf d)
  | tx_iir_cfg s _ => some ('E', digitOf s)
  | tx_agc_cfg s _ => some ('F', digitOf s)
  | ns_cfg s _ => some ('G', digitOf s)
  | txiir_flag _ | agc_flag _ | ns_flag _ | enable_preproc_mask _ => none

/-- `device_id` is always 0 here, so that records for all rates store to the same cell. -/
def shared : Cell → Bool
  | txiir_flag _ | agc_flag _ | ns_flag _ => true
  | _ => false

end Cell

/-- A store that a record with this key may make: to a cell of its own, to a shared one, or bits
added to a mask. -/
def Own (key : Char × Char) (w : Store) : Prop :=
  w.cell.owner = some key ∨ w.cell.shared = true ∨ w.cell.owner = none ∧ w.Adds

theorem own_set {key : Char × Char} {c : Cell} {v : ℕ} (h : c.owner = some key) : Own key (.set c v) :=
  .inl h

theorem own_shared {key : Char × Char} {c : Cell} {v : ℕ} (h : c.shared = true) :
    Own key (.set c v) := .inr (.inl h)

theorem own_mask (key : Char × Char) (s m : ℕ) : Own key (.or (.enable_preproc_mask s) m) :=
  .inr (.inr ⟨rfl, trivial⟩)

variable {audioeq : Option EqCal}

/-- A record makes stores that its letter and its digit may make. -/
theorem own_recordOf (letter digit : Char) :
    Emits (Own (letter, digit)) (recordOf audioeq letter digit) := by
  unfold recordOf
  split
  · -- `A`
    refine emits_onDevice fun d _ hd => ?_
    subst hd
    exact emits_iirRecord (fun _ _ _ => own_set rfl) (fun _ => own_set rfl) (fun _ => own_set rfl)
  · -- `B`
    refine emits_onDevice fun d _ hd => ?_
    subst hd
    exact emits_adrcRecord (own_set rfl) (fun _ => own_set rfl) (fun _ _ _ => own_set rfl)
  · -- `C`
    refine emits_onDevice fun d _ hd => ?_
    subst hd
    exact emits_eqRecord (fun _ => own_set rfl) (fun _ => own_set rfl) (fun _ _ _ => own_set rfl)
  · -- `D`
    refine emits_onDevice fun d _ hd => ?_
    subst hd
    exact emits_mbadrcRecord (own_set rfl) (fun _ _ => own_set rfl) (fun _ => own_set rfl)
  · -- `E`
    refine emits_onRate fun s _ hs => ?_
    subst hs
    exact emits_txIirRecord (fun _ _ _ => own_set rfl) (fun _ => own_shared rfl) (own_mask ..)
  · -- `F`
    refine emits_onRate fun s _ hs => ?_
    subst hs
    exact emits_agcRecord (fun _ _ _ => own_set rfl) (fun _ => own_shared rfl) (own_mask ..)
  · -- `G`
    refine emits_onRate fun s _ hs => ?_
    subst hs
    exact emits_nsRecord (fun _ _ => own_set rfl) (fun _ => own_shared rfl) (own_mask ..)
  · exact emits_pure ()

/-- A line makes stores of its letter and its digit. -/
theorem stores_own (buf : List Char) : ∀ w ∈ stores audioeq buf, Own (charAt buf 0, charAt buf 1) w :=
  fun w hw => own_recordOf _ _ _ w hw

/-- A cell of a record is stored to by lines of that record only. -/
theorem key_of_owner {buf : List Char} {w : Store} {c : Cell} {key : Char × Char}
    (hw : w ∈ stores audioeq buf) (hc : w.cell = c) (hs : c.shared = false) (ho : c.owner = some key) :
    (charAt buf 0, charAt buf 1) = key := by
  rcases stores_own buf w hw with h | h | ⟨h, _⟩
  · rw [hc, ho, Option.some.injEq] at h
    exact h.symm
  · rw [hc, hs] at h
    cases h
  · rw [hc, ho] at h
    cases h

/-- The letters of the records that own a cell. -/
theorem owner_letter {c : Cell} {key : Char × Char} (h : c.owner = some key) :
    ('A' ≤ key.1 && key.1 ≤ 'G') = true := by
  unfold Cell.owner at h
  split at h
  all_goals first
    | (cases h; done)
    | (obtain rfl := Option.some.inj h; rfl)

/-- A mask is not set, but gains bits. -/
theorem adds_of_owner {buf : List Char} {w : Store} {c : Cell} (hw : w ∈ stores audioeq buf)
    (hc : w.cell = c) (hs : c.shared = false) (ho : c.owner = none) : w.Adds := by
  rcases stores_own buf w hw with h | h | ⟨_, h⟩
  · rw [hc, ho] at h
    cases h
  · rw [hc, hs] at h
    cases h
  · exact h

/-! ### The order of lines -/

/-- The line is accepted, and its stores are within the arrays. -/
def Accepted (audioeq : Option EqCal) (buf : List Char) : Prop :=
  result audioeq buf = 0 ∧ ∀ w ∈ stores audioeq buf, w.cell.inside = true

/-- Accepted lines are all stored. -/
theorem get_audpp_filter_accepted {lines : List (List Char)} (h : ∀ buf ∈ lines, Accepted audioeq buf)
    (T : Tables) :
    get_audpp_filter audioeq lines T = (applyAll (lines.flatMap (stores audioeq)) T, 0) := by
  induction lines generalizing T with
  | nil => rfl
  | cons buf lines ih =>
    have hbuf : (check_and_set_audpp_parameters audioeq buf T).2 = 0 := (h buf (by simp)).1
    unfold get_audpp_filter
    rw [if_neg (not_not.2 hbuf), ih fun b hb => h b (List.mem_cons_of_mem _ hb), List.flatMap_cons,
      applyAll_append]
    rfl

/-- **Filter records of different tables do not interfere.** Accepted lines leave the same tables in
every order that keeps the order of the lines with the same letter and digit. -/
theorem reordered (audioeq : Option EqCal) (lines lines' : List (List Char)) (T : Tables) (c : Cell)
    (hacc : ∀ buf ∈ lines, Accepted audioeq buf) (hperm : lines.Perm lines')
    (hkey : ∀ key, lines.filter (keyOf · = some key) = lines'.filter (keyOf · = some key))
    (hc : c.shared = false) :
    (get_audpp_filter audioeq lines T).1 c = (get_audpp_filter audioeq lines' T).1 c := by
  rw [get_audpp_filter_accepted hacc,
    get_audpp_filter_accepted fun buf hbuf => hacc buf (hperm.mem_iff.2 hbuf)]
  dsimp only
  cases ho : c.owner with
  | some key =>
    -- only the lines with the key of the cell count, and they are in the same order
    have hown : ∀ buf, ∀ w ∈ stores audioeq buf, w.cell = c → keyOf buf = some key := by
      intro buf w hw hwc
      have hk := key_of_owner hw hwc hc ho
      have hl : ('A' ≤ charAt buf 0 && charAt buf 0 ≤ 'G') = true := by
        have h := owner_letter ho
        rw [← hk] at h
        exact h
      unfold keyOf
      rw [if_pos hl, hk]
    rw [applyAll_flatMap_filter hown lines, applyAll_flatMap_filter hown lines', hkey]
  | none =>
    apply applyAll_perm (hperm.flatMap_right _)
    intro w hw hwc
    obtain ⟨buf, _, hb⟩ := List.mem_flatMap.1 hw
    exact adds_of_owner hb hwc hc ho

/-- A record `G` whose fields are all 1. -/
def nsLine (digit : Char) : List Char := ['G', digit] ++ (List.replicate 10 [',', '1']).flatten

theorem nsLine_accepted : ∀ buf ∈ [nsLine '1', nsLine '2'], Accepted none buf := by
  intro buf hbuf
  simp only [List.mem_cons, List.not_mem_nil, or_false] at hbuf
  rcases hbuf with rfl | rfl
  · exact ⟨by decide, by decide⟩
  · exact ⟨by decide, by decide⟩

theorem reordered_rates :
    (get_audpp_filter none [nsLine '1', nsLine '2'] fun _ => 0).1 (.ns_cfg 0 .wb_gamma_n) =
      (get_audpp_filter none [nsLine '2', nsLine '1'] fun _ => 0).1 (.ns_cfg 0 .wb_gamma_n) := by
  refine reordered none _ _ _ _ nsLine_accepted (List.Perm.swap ..) (fun key => ?_) rfl
  have h1 : keyOf (nsLine '1') = some ('G', '1') := by decide
  have h2 : keyOf (nsLine '2') = some ('G', '2') := by decide
  by_cases hk : key = ('G', '1')
  · subst hk
    simp [h1, h2]
  · simp [List.filter_cons, h1, h2, Ne.symm hk]

end Msm7x27a.Filter
