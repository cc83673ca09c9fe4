import Msm7x27a.Lib.Bytes

/-!
# Strings in mapped memory

Memory that is mapped up to an address, and the functions that search it: `strchr`, and `strtok` call
after call.  A search goes on until a byte stops it; where none does it faults at the end of the
mapping.  On a string that ends with a 0 inside the mapping `strtok` gives its columns that are not
empty, and changes nothing outside the string (`tokenise_eq`).
-/

namespace Msm7x27a.CString

open Bytes

/-- Memory that is mapped up to `size`: an access from there on faults. -/
structure Region extends Memory where
  size : ℕ

namespace Region

variable (m : Region)

def read (a : ℕ) : Option Byte := if a < m.size then some (m.byte a) else none

def write (a : ℕ) (x : Byte) : Option Region :=
  if a < m.size then some { m with toMemory := m.store a [x] } else none

/-- The first of the `n` addresses from `a` on whose byte stops the search. -/
def findIn (stop : Byte → Bool) : ℕ → ℕ → Option ℕ
  | 0, _ => none
  | n + 1, a => if stop (m.byte a) then some a else findIn stop n (a + 1)

/-- A search from `a` on, which faults if it comes to the end of the mapping. -/
def find (stop : Byte → Bool) (a : ℕ) : Option ℕ := m.findIn stop (m.size - a) a

/-- Where the byte is in the string at `a`, if it is there. -/
def strchr (c : Byte) (a : ℕ) : Option (Option ℕ) :=
  match m.find (fun x => x == c || x == 0) a with
  | none => none
  | some b => some (if m.byte b = c then some b else none)

/-- The string at `a`. -/
def string (a : ℕ) : Option (List Byte) :=
  match m.find (· == 0) a with
  | none => none
  | some e => some (m.slice a (e - a))

/-- A call with one separator, and where the last one stopped: the token and where this one stops. -/
def strtok (sep : Byte) : Option ℕ → Option (Option ℕ × Option ℕ × Region)
  | none => some (none, none, m)
  | some s =>
    match m.find (· != sep) s with
    | none => none
    | some p =>
      if m.byte p = 0 then some (none, none, m)
      else
        match m.find (fun x => x == sep || x == 0) p with
        | none => none
        | some e =>
          if m.byte e = 0 then some (some p, none, m)
          else
            match m.write e 0 with
            | none => none
            | some m => some (some p, some (e + 1), m)

end Region

/-- The tokens of `n` calls, or fewer if there are no more. -/
def tokenise (sep : Byte) : ℕ → Option ℕ → Region → Option (List (List Byte) × Region)
  | 0, _, m => some ([], m)
  | n + 1, s, m =>
    match m.strtok sep s with
    | none => none
    | some (none, _, m) => some ([], m)
    | some (some p, s, m) =>
      match m.string p with
      | none => none
      | some t =>
        match tokenise sep n s m with
        | none => none
        | some (ts, m) => some (t :: ts, m)

variable {m : Region} {stop : Byte → Bool} {a n : ℕ} {xs ys : List Byte} {x sep : Byte}

/-! ### Searches -/

theorem findIn_append (h : m.slice a xs.length = xs) (hgo : ∀ x ∈ xs, stop x = false)
    (hstop : stop (m.byte (a + xs.length)) = true) (hn : xs.length < n) :
    m.findIn stop n a = some (a + xs.length) := by
  induction xs generalizing a n with
  | nil =>
    obtain ⟨n, rfl⟩ : ∃ k, n = k + 1 := ⟨n - 1, by simp at hn; omega⟩
    exact if_pos hstop
  | cons x xs ih =>
    rw [List.length_cons] at hn hstop
    obtain ⟨n, rfl⟩ : ∃ k, n = k + 1 := ⟨n - 1, by omega⟩
    rw [List.length_cons, slice_succ] at h
    obtain ⟨hx, hxs⟩ := List.cons.inj h
    have hnext : a + 1 + xs.length = a + (xs.length + 1) := by omega
    unfold Region.findIn
    rw [hx, if_neg (by simp [hgo x (List.mem_cons_self ..)]), List.length_cons, ← hnext]
    exact ih hxs (fun y hy => hgo y (List.mem_cons_of_mem _ hy)) (hnext ▸ hstop) (by omega)

/-- A search over bytes that do not stop it, up to one that does. -/
theorem find_eq (h : m.slice a xs.length = xs) (hgo : ∀ x ∈ xs, stop x = false)
    (hstop : stop (m.byte (a + xs.length)) = true) (hsize : a + xs.length < m.size) :
    m.find stop a = some (a + xs.length) := findIn_append h hgo hstop (by omega)

theorem find_here (hstop : stop (m.byte a) = true) (ha : a < m.size) : m.find stop a = some a := by
  have hnil : m.slice a ([] : List Byte).length = [] := slice_zero a m.toMemory
  exact find_eq hnil (by simp) hstop ha

theorem findIn_fault (hgo : ∀ i, a ≤ i → i < a + n → stop (m.byte i) = false) :
    m.findIn stop n a = none := by
  induction n generalizing a with
  | zero => rfl
  | succ n ih =>
    unfold Region.findIn
    rw [if_neg (by simp [hgo a (Nat.le_refl a) (by omega)])]
    exact ih fun i hi hlt => hgo i (by omega) (by omega)

/-- A search that nothing stops leaves the mapping. -/
theorem find_fault (hgo : ∀ i, a ≤ i → i < m.size → stop (m.byte i) = false) : m.find stop a = none :=
  findIn_fault fun i hi hlt => hgo i hi (by omega)

theorem find_succ (ha : a < m.size) (hgo : stop (m.byte a) = false) :
    m.find stop a = m.find stop (a + 1) := by
  obtain ⟨n, hn⟩ : ∃ n, m.size - a = n + 1 := ⟨m.size - a - 1, by omega⟩
  have hrest : m.size - (a + 1) = n := by omega
  unfold Region.find
  rw [hn, hrest, Region.findIn, if_neg (by simp [hgo])]

/-- The string that ends with the first 0. -/
theorem string_eq (h : m.slice a xs.length = xs) (hxs : 0 ∉ xs) (hend : m.byte (a + xs.length) = 0)
    (hsize : a + xs.length < m.size) : m.string a = some xs := by
  have hgo : ∀ x ∈ xs, (x == 0) = false := fun x hx => beq_false_of_ne fun e => hxs (e ▸ hx)
  unfold Region.string
  rw [find_eq h hgo (by rw [hend]; rfl) hsize]
  dsimp only
  rw [Nat.add_sub_cancel_left, h]

/-! ### Columns -/

section Columns

variable {α : Type*} [DecidableEq α] {c : α} {t : List α}

/-- What lies between separators, if it is not empty. -/
def columns (c : α) (l : List α) : List (List α) := (l.splitOn c).filter (· ≠ [])

theorem columns_sep (c : α) (l : List α) : columns c (c :: l) = columns c l := by
  unfold columns
  have h := List.splitOn_append_cons_self_of_not_mem (List.not_mem_nil (a := c)) l
  rw [List.nil_append] at h
  rw [h]
  rfl

theorem columns_column (ht : t ≠ []) (hc : c ∉ t) (l : List α) :
    columns c (t ++ c :: l) = t :: columns c l := by
  unfold columns
  rw [List.splitOn_append_cons_self_of_not_mem hc, List.filter_cons_of_pos (by simpa using ht)]

theorem columns_last (ht : t ≠ []) (hc : c ∉ t) : columns c t = [t] := by
  unfold columns
  rw [List.splitOn_eq_singleton hc, List.filter_cons_of_pos (by simpa using ht), List.filter_nil]

/-- Along the separators of a list: the case without one, and a column before the rest. -/
@[elab_as_elim]
theorem separated_induction (c : α) {P : List α → Prop} (last : ∀ t, c ∉ t → P t)
    (column : ∀ t l, c ∉ t → P l → P (t ++ c :: l)) (l : List α) : P l := by
  induction hlen : l.length using Nat.strong_induction_on generalizing l with
  | _ n ih =>
    by_cases hc : c ∈ l
    · obtain ⟨t, rest, rfl, ht⟩ := List.eq_append_cons_of_mem hc
      rw [List.length_append, List.length_cons] at hlen
      exact column t rest ht (ih rest.length (by omega) rest rfl)
    · exact last l hc

end Columns

/-! ### `strtok` -/

/-- The memory has changed at most from `a` up to `b`. -/
structure SameOutside (a b : ℕ) (m m' : Region) : Prop where
  size : m'.size = m.size
  byte : ∀ i, i < a ∨ b ≤ i → m'.byte i = m.byte i

theorem SameOutside.refl (a b : ℕ) (m : Region) : SameOutside a b m m := ⟨rfl, fun _ _ => rfl⟩

theorem SameOutside.trans {b a' b' : ℕ} {m m' m'' : Region} (h : SameOutside a b m m')
    (h' : SameOutside a' b' m' m'') (ha : a ≤ a') (hb : b' ≤ b) : SameOutside a b m m'' where
  size := h'.size.trans h.size
  byte i hi := (h'.byte i (hi.imp (fun h => by omega) fun h => by omega)).trans (h.byte i hi)

theorem write_same {m' : Region} (h : m.write a x = some m') : SameOutside a (a + 1) m m' := by
  unfold Region.write at h
  split at h
  · obtain rfl := Option.some.inj h
    exact ⟨rfl, fun i hi => byte_store_of_disjoint [x] m.toMemory hi⟩
  · cases h

theorem write_eq (h : a < m.size) (x : Byte) : ∃ m', m.write a x = some m' := ⟨_, if_pos h⟩

theorem byte_write {m' : Region} (h : m.write a x = some m') : m'.byte a = x := by
  unfold Region.write at h
  split at h
  · obtain rfl := Option.some.inj h
    exact Function.update_self a x m.byte
  · cases h

/-- Separators in front are skipped. -/
theorem strtok_skip (ha : a < m.size) (h : m.byte a = sep) :
    m.strtok sep (some a) = m.strtok sep (some (a + 1)) := by
  unfold Region.strtok
  dsimp only
  rw [find_succ ha (by simp [h])]

theorem tokenise_skip (ha : a < m.size) (h : m.byte a = sep) (n : ℕ) :
    tokenise sep n (some a) m = tokenise sep n (some (a + 1)) m := by
  cases n with
  | zero => rfl
  | succ n =>
    unfold tokenise
    rw [strtok_skip ha h]

theorem tokenise_none (n : ℕ) (m : Region) : tokenise sep n none m = some ([], m) := by
  cases n with
  | zero => rfl
  | succ n => rfl

section Strings

variable {t : List Byte}

/-- At the end of the string there is no token. -/
theorem strtok_end (hsep : sep ≠ 0) (ha : a < m.size) (h : m.byte a = 0) :
    m.strtok sep (some a) = some (none, none, m) := by
  have hfind : m.find (· != sep) a = some a := find_here (by simpa [h] using hsep.symm) ha
  unfold Region.strtok
  dsimp only
  rw [hfind]
  exact if_pos h

/-- A token starts where the byte is neither the separator nor the end. -/
theorem find_token (h : m.slice a t.length = t) (ht : t ≠ []) (hzero : 0 ∉ t) (hc : sep ∉ t)
    (hsize : a + t.length < m.size) : m.find (· != sep) a = some a ∧ m.byte a ≠ 0 := by
  obtain ⟨x, t, rfl⟩ := List.exists_cons_of_ne_nil ht
  rw [List.length_cons, slice_succ] at h
  have hx : m.byte a = x := (List.cons.inj h).1
  rw [List.mem_cons, not_or] at hzero hc
  refine ⟨find_here (by simpa [hx] using Ne.symm hc.1) (by omega), ?_⟩
  rw [hx]
  exact Ne.symm hzero.1

theorem find_column (h : m.slice a t.length = t) (hzero : 0 ∉ t) (hc : sep ∉ t)
    (hstop : m.byte (a + t.length) = sep ∨ m.byte (a + t.length) = 0)
    (hsize : a + t.length < m.size) :
    m.find (fun x => x == sep || x == 0) a = some (a + t.length) := by
  refine find_eq h ?_ (by simpa using hstop) hsize
  intro x hx
  have hsep : x ≠ sep := fun e => hc (e ▸ hx)
  have h0 : x ≠ 0 := fun e => hzero (e ▸ hx)
  rw [beq_false_of_ne hsep, beq_false_of_ne h0]
  rfl

theorem strchr_found (h : m.slice a t.length = t) (hzero : 0 ∉ t) (hc : sep ∉ t)
    (hbyte : m.byte (a + t.length) = sep) (hsize : a + t.length < m.size) :
    m.strchr sep a = some (some (a + t.length)) := by
  unfold Region.strchr
  rw [find_column h hzero hc (.inl hbyte) hsize]
  dsimp only
  rw [if_pos hbyte]

theorem strchr_absent (hsep : sep ≠ 0) (h : m.slice a t.length = t) (hzero : 0 ∉ t) (hc : sep ∉ t)
    (hend : m.byte (a + t.length) = 0) (hsize : a + t.length < m.size) :
    m.strchr sep a = some none := by
  unfold Region.strchr
  rw [find_column h hzero hc (.inr hend) hsize]
  dsimp only
  rw [if_neg (by rw [hend]; exact Ne.symm hsep)]

/-- The last token ends with the string. -/
theorem strtok_last (h : m.slice a t.length = t) (ht : t ≠ []) (hzero : 0 ∉ t) (hc : sep ∉ t)
    (hend : m.byte (a + t.length) = 0) (hsize : a + t.length < m.size) :
    m.strtok sep (some a) = some (some a, none, m) := by
  obtain ⟨hfind, hne⟩ := find_token h ht hzero hc hsize
  unfold Region.strtok
  dsimp only
  rw [hfind]
  dsimp only
  rw [if_neg hne, find_column h hzero hc (.inr hend) hsize]
  exact if_pos hend

/-- A token that a separator follows is cut off there. -/
theorem strtok_column (hsep : sep ≠ 0) (h : m.slice a t.length = t) (ht : t ≠ []) (hzero : 0 ∉ t)
    (hc : sep ∉ t) (hend : m.byte (a + t.length) = sep) (hsize : a + t.length < m.size) :
    ∃ m', m.write (a + t.length) 0 = some m' ∧
      m.strtok sep (some a) = some (some a, some (a + t.length + 1), m') := by
  obtain ⟨hfind, hne⟩ := find_token h ht hzero hc hsize
  obtain ⟨m', hwrite⟩ := write_eq hsize 0
  refine ⟨m', hwrite, ?_⟩
  unfold Region.strtok
  dsimp only
  rw [hfind]
  dsimp only
  rw [if_neg hne, find_column h hzero hc (.inl hend) hsize]
  dsimp only
  rw [if_neg (by rw [hend]; exact hsep), hwrite]

/-! ### The tokens of a string -/

theorem tokenise_end (hsep : sep ≠ 0) (ha : a < m.size) (h : m.byte a = 0) (n : ℕ) :
    tokenise sep n (some a) m = some ([], m) := by
  cases n with
  | zero => rfl
  | succ n =>
    unfold tokenise
    rw [strtok_end hsep ha h]

theorem tokenise_last (h : m.slice a t.length = t) (ht : t ≠ []) (hzero : 0 ∉ t) (hc : sep ∉ t)
    (hend : m.byte (a + t.length) = 0) (hsize : a + t.length < m.size) (n : ℕ) :
    tokenise sep (n + 1) (some a) m = some ([t], m) := by
  have htext := string_eq h hzero hend hsize
  unfold tokenise
  rw [strtok_last h ht hzero hc hend hsize]
  dsimp only
  rw [htext]
  dsimp only
  rw [tokenise_none]

/-- A token, and the tokens behind the separator. -/
theorem tokenise_column (hsep : sep ≠ 0) (h : m.slice a t.length = t) (ht : t ≠ []) (hzero : 0 ∉ t)
    (hc : sep ∉ t) (hend : m.byte (a + t.length) = sep) (hsize : a + t.length < m.size) :
    ∃ m', SameOutside (a + t.length) (a + t.length + 1) m m' ∧
      ∀ n ts m'', tokenise sep n (some (a + t.length + 1)) m' = some (ts, m'') →
        tokenise sep (n + 1) (some a) m = some (t :: ts, m'') := by
  obtain ⟨m', hwrite, hstrtok⟩ := strtok_column hsep h ht hzero hc hend hsize
  have hsame := write_same hwrite
  have htext : m'.string a = some t := by
    refine string_eq ?_ hzero (byte_write hwrite) (hsame.size ▸ hsize)
    rw [slice_congr fun i _ hi => hsame.byte i (.inl hi)]
    exact h
  refine ⟨m', hsame, fun n ts m'' htokens => ?_⟩
  unfold tokenise
  rw [hstrtok]
  dsimp only
  rw [htext]
  dsimp only
  rw [htokens]

end Strings

/-- What has not changed is read as before. -/
theorem SameOutside.slice {b c : ℕ} {m' : Region} (h : SameOutside a b m m') (hb : b ≤ c) (n : ℕ) :
    m'.slice c n = m.slice c n :=
  slice_congr fun i hi _ => h.byte i (.inr (by omega))

/-- **Tokens.** The calls on a string give its columns in order, as many as there are calls, and
change the string alone. -/
theorem tokenise_eq (hsep : sep ≠ 0) (hzero : 0 ∉ xs) (h : m.slice a xs.length = xs)
    (hend : m.byte (a + xs.length) = 0) (hsize : a + xs.length < m.size) (n : ℕ) :
    ∃ m', tokenise sep n (some a) m = some ((columns sep xs).take n, m') ∧
      SameOutside a (a + xs.length) m m' := by
  induction xs using separated_induction sep generalizing a n m with
  | last t hc =>
    by_cases hempty : t = []
    · subst hempty
      have htokens := tokenise_end hsep hsize hend n
      rw [List.length_nil, Nat.add_zero] at htokens
      refine ⟨m, htokens.trans ?_, .refl ..⟩
      exact congrArg (fun ts => some (ts, m)) List.take_nil.symm
    · refine ⟨m, ?_, .refl ..⟩
      cases n with
      | zero => rfl
      | succ n =>
        rw [tokenise_last h hempty hzero hc hend hsize, columns_last hempty hc, List.take_succ_cons,
          List.take_nil]
  | column t s hc ih =>
    rw [List.length_append, List.length_cons] at hend hsize ⊢
    obtain ⟨hslice, hrest⟩ := slice_append h
    rw [List.length_cons, slice_succ] at hrest
    obtain ⟨hbyte, hrest⟩ := List.cons.inj hrest
    rw [List.mem_append, List.mem_cons, not_or, not_or] at hzero
    obtain ⟨hzerot, -, hzeros⟩ := hzero
    have hnext : a + (t.length + (s.length + 1)) = a + t.length + 1 + s.length := by omega
    rw [hnext] at hend hsize ⊢
    by_cases hempty : t = []
    · -- a separator in front is skipped
      subst hempty
      rw [List.length_nil, Nat.add_zero] at hbyte hrest hend hsize ⊢
      obtain ⟨m', htokens, hsame⟩ := ih hzeros hrest hend hsize n
      refine ⟨m', ?_, (SameOutside.refl a _ m).trans hsame (Nat.le_succ a) (Nat.le_refl _)⟩
      rw [tokenise_skip (by omega) hbyte, List.nil_append, columns_sep]
      exact htokens
    · -- a token, and what is behind the separator
      obtain ⟨m1, hsame, htoken⟩ := tokenise_column hsep hslice hempty hzerot hc hbyte (by omega)
      cases n with
      | zero => exact ⟨m, rfl, .refl ..⟩
      | succ n =>
        obtain ⟨m', htokens, hsame'⟩ := ih hzeros ((hsame.slice (Nat.le_refl _) _).trans hrest)
          ((hsame.byte _ (.inr (by omega))).trans hend) (hsame.size ▸ hsize) n
        have hfront : SameOutside a (a + t.length + 1 + s.length) m m1 :=
          ⟨hsame.size, fun i hi => hsame.byte i (hi.imp (fun h => by omega) fun h => by omega)⟩
        refine ⟨m', ?_, hfront.trans hsame' (by omega) (Nat.le_refl _)⟩
        rw [columns_column hempty hc, List.take_succ_cons]
        exact htoken n _ m' htokens

end Msm7x27a.CString
