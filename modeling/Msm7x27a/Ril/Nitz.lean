import Msm7x27a.Ril.Unsolicited

/-!
# The tail of a NITZ string

Samsung appends fields to the NITZ string.  `processUnsolicited` counts the parts at five separators,
of which a standard string has eight, and cuts a longer string before its last comma.  That takes off
one field, and needs a comma.

`strips_iff` says which strings are passed on as they should be, and which throw.
-/

namespace Msm7x27a.Ril

/-- The state and the notices with a string passed on. -/
def passOn {Handler : Type} (nitz : JString) (nitzReceiveTime : Int) (s : RilState Handler) :
    RilState Handler × List (Notice Handler) :=
  match s.mNITZTimeRegistrant with
  | some h => (s, [⟨h, .pair nitz nitzReceiveTime⟩])
  | none => ({ s with mLastNITZTimeInfo := some (.string nitz) }, [])

section PassOn

variable {Handler : Type} {s : RilState Handler} {nitz nitz' : JString} {nitzReceiveTime : Int}

theorem processUnsolicited_eq : processUnsolicited (.nitzTimeReceived nitz nitzReceiveTime) s =
    (strip nitz).map fun nitz => passOn nitz nitzReceiveTime s := rfl

theorem passOn_inj : passOn nitz nitzReceiveTime s = passOn nitz' nitzReceiveTime s ↔ nitz = nitz' := by
  refine ⟨fun h => ?_, fun h => by rw [h]⟩
  unfold passOn at h
  split at h
  · have hone := List.head_eq_of_cons_eq (congrArg Prod.snd h)
    cases hone
    rfl
  · have hinfo := congrArg RilState.mLastNITZTimeInfo (congrArg Prod.fst h)
    cases hinfo
    rfl

/-- A string is passed on as the code strips it. -/
theorem passes_iff : processUnsolicited (.nitzTimeReceived nitz nitzReceiveTime) s =
    some (passOn nitz' nitzReceiveTime s) ↔ strip nitz = some nitz' := by
  rw [processUnsolicited_eq, Option.map_eq_some_iff]
  constructor
  · rintro ⟨stripped, hs, hp⟩
    rw [hs, passOn_inj.1 hp]
  · intro hs
    exact ⟨nitz', hs, rfl⟩

end PassOn

/-! ### Strings -/

/-- A field: it is not empty and has no separator. -/
structure IsField (f : JString) : Prop where
  nonempty : f ≠ []
  plain : ∀ c ∈ f, isSeparator c = false

/-- `yy/mm/dd,hh:mm:ss`, a sign, and `tz,dt`. -/
structure Nitz where
  yy : JString
  mm : JString
  dd : JString
  hh : JString
  mi : JString
  ss : JString
  sign : Char
  tz : JString
  dt : JString
  digits : ∀ f ∈ [yy, mm, dd, hh, mi, ss, tz, dt], f ≠ [] ∧ ∀ c ∈ f, c.isDigit = true
  signed : sign = '+' ∨ sign = '-'

namespace Nitz

variable (b : Nitz)

def fields : List JString := [b.yy, b.mm, b.dd, b.hh, b.mi, b.ss, b.tz, b.dt]

def text : JString :=
  b.yy ++ '/' :: (b.mm ++ '/' :: (b.dd ++ ',' :: (b.hh ++ ':' :: (b.mi ++ ':' :: (b.ss ++ b.sign ::
    (b.tz ++ ',' :: b.dt))))))

end Nitz

/-- The text with a tail of fields, a comma before each. -/
def withTail (text : JString) : List JString → JString
  | [] => text
  | f :: fs => withTail (text ++ ',' :: f) fs

theorem isSeparator_of_isDigit {c : Char} (h : c.isDigit = true) : isSeparator c = false := by
  have hne : ∀ d : Char, d.isDigit = false → c ≠ d := by
    rintro d hd rfl
    exact Bool.false_ne_true (hd.symm.trans h)
  unfold isSeparator
  simp [hne '/' (by decide), hne ':' (by decide), hne ',' (by decide), hne '+' (by decide),
    hne '-' (by decide)]

theorem isSeparator_sign {c : Char} (h : c = '+' ∨ c = '-') : isSeparator c = true := by
  obtain rfl | rfl := h <;> decide

theorem isField_of_mem {b : Nitz} {f : JString} (h : f ∈ b.fields) : IsField f := by
  obtain ⟨hne, hdigits⟩ := b.digits f h
  exact ⟨hne, fun c hc => isSeparator_of_isDigit (hdigits c hc)⟩

/-! ### Parts -/

theorem splitOnP_field {f : JString} (hf : IsField f) : f.splitOnP isSeparator = [f] :=
  List.splitOnP_eq_singleton hf.plain

theorem splitOnP_cons {f : JString} (hf : IsField f) {c : Char} (hc : isSeparator c = true) (s : JString) :
    (f ++ c :: s).splitOnP isSeparator = f :: s.splitOnP isSeparator :=
  List.splitOnP_append_cons_of_forall_mem hf.plain c hc s

theorem splitOnP_text (b : Nitz) : b.text.splitOnP isSeparator = b.fields := by
  have hf : ∀ f ∈ b.fields, IsField f := fun f => isField_of_mem
  unfold Nitz.fields at hf ⊢
  simp only [List.forall_mem_cons] at hf
  obtain ⟨hyy, hmm, hdd, hhh, hmi, hss, htz, hdt, -⟩ := hf
  unfold Nitz.text
  rw [splitOnP_cons hyy (by decide), splitOnP_cons hmm (by decide), splitOnP_cons hdd (by decide),
    splitOnP_cons hhh (by decide), splitOnP_cons hmi (by decide),
    splitOnP_cons hss (isSeparator_sign b.signed), splitOnP_cons htz (by decide), splitOnP_field hdt]

theorem splitOnP_withTail {text : JString} {fs : List JString} (hfs : ∀ f ∈ fs, IsField f) :
    (withTail text fs).splitOnP isSeparator = text.splitOnP isSeparator ++ fs := by
  induction fs generalizing text with
  | nil => exact (List.append_nil _).symm
  | cons f fs ih =>
    obtain ⟨hf, hfs'⟩ := List.forall_mem_cons.1 hfs
    unfold withTail
    rw [ih hfs', List.splitOnP_append_cons text f (by decide), splitOnP_field hf, List.append_assoc]
    rfl

/-- A string whose parts are fields, several of them, is split into these. -/
theorem split_fields {s : JString} (hparts : ∀ f ∈ s.splitOnP isSeparator, IsField f)
    (hmany : 1 < (s.splitOnP isSeparator).length) : split s = s.splitOnP isSeparator := by
  have hsep : s.any isSeparator = true := by
    by_contra hno
    have hnone : ∀ c ∈ s, isSeparator c = false := by
      intro c hc
      by_contra hc'
      exact hno (List.any_eq_true.2 ⟨c, hc, eq_true_of_ne_false hc'⟩)
    rw [List.splitOnP_eq_singleton hnone] at hmany
    exact absurd hmany (Nat.lt_irrefl 1)
  unfold split
  rw [if_pos hsep, List.rdropWhile_eq_self_iff]
  intro hne hempty
  exact (hparts _ (List.getLast_mem hne)).nonempty (List.isEmpty_iff.1 hempty)

theorem length_split_withTail (b : Nitz) {fs : List JString} (hfs : ∀ f ∈ fs, IsField f) :
    (split (withTail b.text fs)).length = 8 + fs.length := by
  have hparts : (withTail b.text fs).splitOnP isSeparator = b.fields ++ fs := by
    rw [splitOnP_withTail hfs, splitOnP_text]
  rw [split_fields, hparts, List.length_append]
  · rfl
  · intro f hf
    rw [hparts] at hf
    obtain hf | hf := List.mem_append.1 hf
    · exact isField_of_mem hf
    · exact hfs f hf
  · rw [hparts, List.length_append]
    exact Nat.lt_of_lt_of_le (by decide) (Nat.le_add_right 8 _)

/-! ### The last comma -/

theorem lastIndexOf_none {c : Char} {s : JString} : lastIndexOf c s = none ↔ c ∉ s := by
  unfold lastIndexOf
  rw [Option.map_eq_none_iff, List.idxOf?_eq_none_iff, List.mem_reverse]

theorem idxOf?_append {c : Char} {f : JString} (hf : c ∉ f) (s : JString) :
    (f ++ c :: s).idxOf? c = some f.length := by
  induction f with
  | nil =>
    rw [List.nil_append, List.idxOf?_cons, if_pos (beq_self_eq_true c)]
    rfl
  | cons d f ih =>
    obtain ⟨hne, hf'⟩ := not_or.1 fun h => hf (List.mem_cons.2 h)
    have hd : ¬(d == c) = true := fun h => hne (beq_iff_eq.1 h).symm
    rw [List.cons_append, List.idxOf?_cons, if_neg hd, ih hf']
    rfl

theorem lastIndexOf_append {c : Char} {s f : JString} (hf : c ∉ f) :
    lastIndexOf c (s ++ c :: f) = some s.length := by
  have hrev : (s ++ c :: f).reverse = f.reverse ++ c :: s.reverse := by
    rw [List.reverse_append, List.reverse_cons, List.append_assoc]
    rfl
  have hidx : (s ++ c :: f).reverse.idxOf? c = some f.length := by
    rw [hrev, idxOf?_append fun h => hf (List.mem_reverse.1 h), List.length_reverse]
  unfold lastIndexOf
  rw [hidx, Option.map_some, List.length_append, List.length_cons]
  congr 1
  omega

/-! ### Stripping -/

/-- The code throws for a string of nine parts or more without a comma. -/
theorem strip_none {s : JString} : strip s = none ↔ 9 ≤ (split s).length ∧ ',' ∉ s := by
  unfold strip
  by_cases hmany : 9 ≤ (split s).length
  · rw [if_pos hmany, Option.map_eq_none_iff, lastIndexOf_none, and_iff_right hmany]
  · rw [if_neg hmany]
    exact iff_of_false (Option.some_ne_none s) fun h => hmany h.1

theorem withTail_concat (text : JString) (fs : List JString) (f : JString) :
    withTail text (fs ++ [f]) = withTail text fs ++ ',' :: f := by
  induction fs generalizing text with
  | nil => rfl
  | cons g fs ih => exact ih _

theorem length_withTail (text : JString) (fs : List JString) :
    text.length + fs.length ≤ (withTail text fs).length := by
  induction fs generalizing text with
  | nil => exact Nat.le_refl _
  | cons f fs ih =>
    have hnext := ih (text ++ ',' :: f)
    unfold withTail
    rw [List.length_append, List.length_cons] at hnext
    rw [List.length_cons]
    omega

/-- One field of a tail is taken off. -/
theorem strip_withTail (b : Nitz) {fs : List JString} (hfs : ∀ f ∈ fs, IsField f) :
    strip (withTail b.text fs) = some (withTail b.text fs.dropLast) := by
  have hlength := length_split_withTail b hfs
  unfold strip
  obtain rfl | ⟨fs', f, rfl⟩ := List.eq_nil_or_concat fs
  · rw [if_neg]
    · rfl
    · rw [hlength]
      decide
  · rw [List.concat_eq_append] at hlength hfs ⊢
    have hcomma : ',' ∉ f := by
      intro hc
      have hplain := (hfs f (List.mem_append_right _ List.mem_cons_self)).plain _ hc
      exact absurd hplain (by decide)
    rw [List.length_append, List.length_singleton] at hlength
    rw [if_pos (by omega), withTail_concat, lastIndexOf_append hcomma, Option.map_some, List.take_left,
      List.dropLast_concat]

/-- **Which strings are stripped.** A tail is removed completely exactly if it has one field at most,
and the code does not throw exactly if a string of nine parts or more has a comma. -/
theorem strips_iff {Handler : Type} (s : RilState Handler) (nitzReceiveTime : Int) :
    (∀ (b : Nitz) (fs : List JString), (∀ f ∈ fs, IsField f) →
      (processUnsolicited (.nitzTimeReceived (withTail b.text fs) nitzReceiveTime) s =
        some (passOn b.text nitzReceiveTime s) ↔ fs.length ≤ 1)) ∧
    ∀ nitz : JString, (processUnsolicited (.nitzTimeReceived nitz nitzReceiveTime) s).isSome = true ↔
      (9 ≤ (split nitz).length → ',' ∈ nitz) := by
  refine ⟨fun b fs hfs => ?_, fun nitz => ?_⟩
  · rw [passes_iff, strip_withTail b hfs, Option.some_inj]
    constructor
    · intro h
      have hlength := length_withTail b.text fs.dropLast
      rw [h, List.length_dropLast] at hlength
      omega
    · intro h
      have hnil : fs.dropLast = [] := by
        apply List.length_eq_zero_iff.1
        rw [List.length_dropLast]
        omega
      rw [hnil]
      rfl
  · rw [processUnsolicited_eq, Option.isSome_map, Option.isSome_iff_ne_none, Ne, strip_none, not_and]
    exact imp_congr_right fun _ => not_not

theorem forall_fields {p : Char → Bool} {fs : List JString}
    (h : fs.all (fun f => !f.isEmpty && f.all p) = true) :
    ∀ f ∈ fs, f ≠ [] ∧ ∀ c ∈ f, p c = true := by
  intro f hf
  obtain ⟨hne, hall⟩ := Bool.and_eq_true_iff.1 (List.all_eq_true.1 h f hf)
  refine ⟨?_, List.all_eq_true.1 hall⟩
  rintro rfl
  exact Bool.false_ne_true hne

/-- `10/06/21,20:31:54+8,0` -/
def aNitz : Nitz where
  yy := ['1', '0']
  mm := ['0', '6']
  dd := ['2', '1']
  hh := ['2', '0']
  mi := ['3', '1']
  ss := ['5', '4']
  sign := '+'
  tz := ['8']
  dt := ['0']
  digits := forall_fields (by decide)
  signed := Or.inl rfl

theorem tail_removed : processUnsolicited (.nitzTimeReceived (withTail aNitz.text [['4', '5']]) 100)
      ({} : RilState String) = some (passOn aNitz.text 100 {}) ∧
    (processUnsolicited (.nitzTimeReceived "12:30".toList 100) ({} : RilState String)).isSome = true := by
  obtain ⟨htail, hthrow⟩ := strips_iff ({} : RilState String) 100
  refine ⟨(htail aNitz _ fun f hf => ?_).2 (Nat.le_refl 1), (hthrow _).2 fun hmany => ?_⟩
  · have hplain : ∀ f ∈ [['4', '5']], f ≠ [] ∧ ∀ c ∈ f, (!isSeparator c) = true := forall_fields (by decide)
    refine ⟨(hplain f hf).1, fun c hc => ?_⟩
    have hc' := (hplain f hf).2 c hc
    rwa [Bool.not_eq_true'] at hc'
  · exact absurd hmany (by decide)

/-- Of two fields one is left, and a string without a comma throws. -/
theorem tail_left : processUnsolicited
      (.nitzTimeReceived (withTail aNitz.text [['4', '5'], ['6']]) 100) ({} : RilState String) =
        some (passOn "10/06/21,20:31:54+8,0,45".toList 100 {}) ∧
    processUnsolicited (.nitzTimeReceived (withTail aNitz.text [['4', '5'], ['6']]) 100)
        ({} : RilState String) ≠ some (passOn aNitz.text 100 {}) ∧
    processUnsolicited (.nitzTimeReceived "1/2/3/4/5/6/7/8/9".toList 100) ({} : RilState String) = none := by
  decide

end Msm7x27a.Ril
