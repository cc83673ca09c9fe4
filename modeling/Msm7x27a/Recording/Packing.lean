import Mathlib.Data.List.ReduceOption
import Msm7x27a.Lib.Bytes
import Msm7x27a.Recording.Stream

/-!
# The loop of `AudioStreamInMSM72xx::read`

For AAC the buffer starts with a magic number and a count, and in front of each frame a field is left
for its size.  The field is taken from the buffer anew after an `EAGAIN`, so that the frame which
then comes lies two bytes behind the place where a reader looks for it.

The buffer that `read` fills decodes to the frames of the driver, whatever it held before, exactly if
no frame comes after an `EAGAIN` (`packs_iff`); nothing is ever written outside of it.
-/

namespace Msm7x27a.Recording

open Msm7x27a.Audio Msm7x27a.Bytes

/-- What `::read` of the driver does: a frame has at least one byte, and is cut to the bytes asked
for. -/
inductive DriverRead where
  | frame (b : Byte) (bs : List Byte)
  | zero
  | eagain
  | error
  deriving DecidableEq, Repr

/-- The variables of the loop. Pointers are offsets from `buffer`. -/
structure ReadLoop where
  count : ℕ
  p : ℕ
  frameSizePtr : ℕ := 0
  bytes : ℕ := 0
  mFirstread : Bool
  mRetryCount : ℕ
  memory : Memory
  /-- The frames that the driver has returned. -/
  frames : List (List Byte) := []

namespace ReadLoop

def frameCountPtr : ℕ := 4

/-- A turn of the loop up to `::read`: whether it is reached. -/
def ready (aac : Bool) (s : ReadLoop) : Bool × ReadLoop :=
  if s.count = 0 then (false, s)
  else if aac then
    let s := { s with frameSizePtr := s.p, p := s.p + 2 }
    if 2 < s.count then (true, { s with count := s.count - 2 }) else (false, s)
  else (true, s)

/-- A frame has been read. -/
def deliver (aac : Bool) (f : List Byte) (s : ReadLoop) : ReadLoop :=
  let m := s.memory.store s.p f
  { s with
    count := s.count - f.length
    p := s.p + f.length
    bytes := s.bytes + f.length
    memory :=
      if aac then
        let m := m.store16 s.frameSizePtr (BitVec.ofNat 16 f.length)
        m.store16 frameCountPtr (m.load16 frameCountPtr + 1)
      else m
    frames := s.frames ++ [f] }

/-- The loop on the results of the driver: whether it is left, or `read` with it for an error. The
results may run out before. -/
def loop (aac : Bool) : List DriverRead → ReadLoop → Option (Bool × ReadLoop)
  | [], s => if (s.ready aac).1 then none else some (true, (s.ready aac).2)
  | r :: rs, s =>
    if (s.ready aac).1 then
      let s := (s.ready aac).2
      match r with
      | .frame b bs =>
        let s := s.deliver aac ((b :: bs).take s.count)
        if s.mFirstread then loop aac rs s else some (true, { s with mFirstread := true })
      | .zero => some (true, s)
      | .eagain => loop aac rs { s with mRetryCount := s.mRetryCount + 1 }
      | .error => some (false, s)
    else some (true, (s.ready aac).2)

end ReadLoop

structure ReadResult where
  ret : Int
  memory : Memory
  frames : List (List Byte)
  stream : AudioStreamInMSM72xx

/-- The number that marks AAC, and no frames yet. -/
def aacHeader (m : Memory) : Memory := (m.store 0 (bytes32 0x51434F4D)).store16 ReadLoop.frameCountPtr 0

/-- The loop begins. -/
def ReadLoop.start (x : AudioStreamInMSM72xx) (bytes : BitVec 32) (m : Memory) : ReadLoop :=
  let aac : Bool := x.mFormat = .aac
  { count := if aac then (bytes - 6).toNat else bytes.toNat
    p := if aac then 6 else 0
    mFirstread := x.mFirstread
    mRetryCount := x.mRetryCount
    memory := if aac then aacHeader m else m }

/-- The end of `read`. -/
def readReturns (x : AudioStreamInMSM72xx) (bytes : BitVec 32) (r : Bool × ReadLoop) : ReadResult where
  ret :=
    if r.1 = false then failed
    else if x.mFormat = .aac then bytes.toInt
    else (BitVec.ofNat 32 r.2.bytes).toInt
  memory := r.2.memory
  frames := r.2.frames
  stream := { x with mFirstread := r.2.mFirstread, mRetryCount := r.2.mRetryCount }

/-- `read` of `bytes`, a `ssize_t`, into the buffer at the start of the memory. -/
def read (h : InputHeaders) (a : Recorder.ReadAnswers) (x : AudioStreamInMSM72xx) (s : Recorder)
    (bytes : BitVec 32) (m : Memory) (rs : List DriverRead) : Option (ReadResult × Recorder) :=
  let r := Recorder.openForRead h a x s
  if r.1 then
    (ReadLoop.loop (r.2.1.mFormat = .aac) rs (.start r.2.1 bytes m)).map fun l =>
      (readReturns r.2.1 bytes l, r.2.2)
  else some (⟨failed, m, [], r.2.1⟩, r.2.2)

/-! ### What the buffer holds -/

/-- The buffer decodes to the frames that the driver has returned, and nothing else is written. -/
structure Packed (bytes : BitVec 32) (r : ReadResult) : Prop where
  magic : r.memory.slice 0 4 = bytes32 0x51434F4D
  count : (r.memory.load16 4).toNat = r.frames.length
  records : r.memory.records 6 r.frames.length = r.frames
  fits : 6 + (layOut r.frames).length ≤ bytes.toNat
  inside : r.memory.Within bytes.toNat

/-- What comes before `read` of AAC returns the length of the buffer: frames, and `none` for an
`EAGAIN`. -/
def arrivals : Bool → ℕ → List DriverRead → Option (List (Option (List Byte)))
  | _, count, [] => if 2 < count then none else some []
  | mFirstread, count, r :: rs =>
    if 2 < count then
      match r with
      | .frame b bs =>
        let f := (b :: bs).take (count - 2)
        if mFirstread then (arrivals true (count - 2 - f.length) rs).map (some f :: ·)
        else some [some f]
      | .zero => some []
      | .eagain => (arrivals mFirstread (count - 2) rs).map (none :: ·)
      | .error => none
    else some []

def NoFrameAfterRetry (t : List (Option (List Byte))) : Prop :=
  t.Pairwise fun r r' => r = none → r' = none

/-- The bytes from `a` on, once all has arrived: a field that no frame follows keeps what it held. -/
def area (m : Memory) : ℕ → List (Option (List Byte)) → List Byte
  | _, [] => []
  | a, none :: t => m.slice a 2 ++ area m (a + 2) t
  | a, some f :: t => record f ++ area m (a + (record f).length) t

/-! ### A frame is packed -/

namespace ReadLoop

section Deliver

variable {s : ReadLoop} {f : List Byte} {n i : ℕ}

theorem length_bytes16 (x : BitVec 16) : (bytes16 x).length = 2 := rfl

theorem byte_deliver (hp : s.p = s.frameSizePtr + 2)
    (hi : i < s.frameSizePtr ∨ s.p + f.length ≤ i) (h4 : i < 4 ∨ 6 ≤ i) :
    (s.deliver true f).memory.byte i = s.memory.byte i := by
  show (Memory.store16 4 _ (Memory.store16 s.frameSizePtr _ (s.memory.store s.p f))).byte i = _
  unfold Memory.store16
  rw [byte_store_of_disjoint, byte_store_of_disjoint, byte_store_of_disjoint]
  · omega
  · rw [length_bytes16]
    omega
  · rw [length_bytes16]
    omega

theorem slice_deliver (hp : s.p = s.frameSizePtr + 2) (h6 : 6 ≤ s.frameSizePtr) :
    (s.deliver true f).memory.slice s.frameSizePtr (record f).length = record f := by
  show (Memory.store16 4 _ (Memory.store16 s.frameSizePtr _ (s.memory.store s.p f))).slice _ _ = _
  rw [length_record, slice_add, ← hp]
  unfold Memory.store16
  have hsize := slice_store s.frameSizePtr (bytes16 (BitVec.ofNat 16 f.length)) (s.memory.store s.p f)
  rw [length_bytes16] at hsize
  have hframe : (Memory.store s.frameSizePtr (bytes16 (BitVec.ofNat 16 f.length))
      (s.memory.store s.p f)).slice s.p f.length = f := by
    rw [slice_store_of_disjoint, slice_store]
    rw [length_bytes16]
    omega
  have hcount : ∀ (x : BitVec 16) (m : Memory) (c n : ℕ), 6 ≤ c →
      (Memory.store 4 (bytes16 x) m).slice c n = m.slice c n := by
    intro x m c n hc
    refine slice_store_of_disjoint _ m (Or.inr ?_)
    rw [length_bytes16]
    omega
  rw [hcount _ _ _ _ h6, hcount _ _ _ _ (by omega), hsize, hframe]
  rfl

theorem load_deliver (hp : s.p = s.frameSizePtr + 2) (h6 : 6 ≤ s.frameSizePtr) :
    (s.deliver true f).memory.load16 4 = s.memory.load16 4 + 1 := by
  show (Memory.store16 4 _ (Memory.store16 s.frameSizePtr _ (s.memory.store s.p f))).load16 4 = _
  rw [load16_store16]
  show (Memory.store16 s.frameSizePtr _ (s.memory.store s.p f)).load16 4 + 1 = _
  unfold Memory.store16
  rw [load16_store_of_disjoint, load16_store_of_disjoint]
  · omega
  · omega

theorem within_deliver (hp : s.p = s.frameSizePtr + 2) (h6 : 6 ≤ s.frameSizePtr)
    (hn : s.p + f.length ≤ n) (hm : s.memory.Within n) : (s.deliver true f).memory.Within n := by
  show (Memory.store16 4 _ (Memory.store16 s.frameSizePtr _ (s.memory.store s.p f))).Within n
  refine within_store (within_store (within_store hm hn) ?_) ?_
  · rw [length_bytes16]
    omega
  · rw [length_bytes16]
    omega

end Deliver

theorem area_congr {m m' : Memory} {a : ℕ} (h : ∀ i, a ≤ i → m'.byte i = m.byte i)
    (t : List (Option (List Byte))) : area m' a t = area m a t := by
  induction t generalizing a with
  | nil => rfl
  | cons r t ih =>
    cases r with
    | none =>
      unfold area
      rw [slice_congr fun i hi _ => h i hi, ih fun i hi => h i (by omega)]
    | some f =>
      unfold area
      rw [ih fun i hi => h i (by omega)]

theorem p_deliver {s : ReadLoop} (hp : s.p = s.frameSizePtr + 2) (f : List Byte) :
    (s.deliver true f).p = s.frameSizePtr + (record f).length := by
  show s.p + f.length = _
  rw [length_record, hp, Nat.add_assoc]

theorem area_deliver {s : ReadLoop} {f : List Byte} {t : List (Option (List Byte))}
    (hp : s.p = s.frameSizePtr + 2) (h6 : 6 ≤ s.frameSizePtr) :
    area (s.deliver true f).memory (s.deliver true f).p t =
      area s.memory (s.frameSizePtr + (record f).length) t := by
  rw [p_deliver hp]
  refine area_congr (fun i hi => ?_) t
  rw [length_record] at hi
  exact byte_deliver hp (Or.inr (by omega)) (by omega)

/-! ### The loop -/

/-- What the loop has done when `t` has arrived. -/
structure Fills (s : ReadLoop) (t : List (Option (List Byte))) (s' : ReadLoop) : Prop where
  frames : s'.frames = s.frames ++ t.reduceOption
  count : s'.memory.load16 4 = s.memory.load16 4 + BitVec.ofNat 16 t.reduceOption.length
  area : s'.memory.slice s.p (area s.memory s.p t).length = area s.memory s.p t
  before : ∀ i, i < s.p → i < 4 ∨ 6 ≤ i → s'.memory.byte i = s.memory.byte i
  fits : (Recording.area s.memory s.p t).length ≤ s.count
  inside : s.memory.Within (s.p + s.count) → s'.memory.Within (s.p + s.count)
  nonempty : ∀ f ∈ t.reduceOption, f ≠ []

theorem Fills.nil {s s' : ReadLoop} (hf : s'.frames = s.frames) (hm : s'.memory = s.memory) :
    Fills s [] s' where
  frames := by
    rw [hf]
    exact (List.append_nil s.frames).symm
  count := by
    rw [hm]
    exact (BitVec.add_zero _).symm
  area := rfl
  before _ _ _ := by rw [hm]
  fits := Nat.zero_le _
  inside h := by rwa [hm]
  nonempty f hmem := by cases hmem

theorem Fills.none {s s₁ s' : ReadLoop} {t : List (Option (List Byte))} (hc : s.count = s₁.count + 2)
    (hp : s₁.p = s.p + 2) (hframes : s₁.frames = s.frames) (hmem : s₁.memory = s.memory)
    (h6 : 6 ≤ s.p) (h : Fills s₁ t s') : Fills s (none :: t) s' where
  frames := by
    rw [h.frames, hframes]
    rfl
  count := by
    rw [h.count, hmem]
    rfl
  area := by
    have ha := h.area
    rw [hp, hmem] at ha
    show s'.memory.slice s.p (s.memory.slice s.p 2 ++ _).length = _
    rw [List.length_append, slice_add, length_slice, ha]
    refine congrArg (· ++ _) (slice_congr fun i hi hlt => ?_)
    rw [h.before i (by omega) (by omega), hmem]
  before i hi h4 := by rw [h.before i (by omega) h4, hmem]
  fits := by
    have hf := h.fits
    rw [hp, hmem] at hf
    show (s.memory.slice s.p 2 ++ _).length ≤ _
    rw [List.length_append, length_slice]
    omega
  inside hm := by
    have hn : s₁.p + s₁.count = s.p + s.count := by omega
    have hi := h.inside
    rw [hn, hmem] at hi
    exact hi hm
  nonempty := h.nonempty

theorem Fills.some {s s₁ s' : ReadLoop} {t : List (Option (List Byte))} {f : List Byte}
    (hp : s₁.p = s₁.frameSizePtr + 2) (hptr : s₁.frameSizePtr = s.p) (hc : s.count = s₁.count + 2)
    (hframes : s₁.frames = s.frames) (hmem : s₁.memory = s.memory) (h6 : 6 ≤ s.p) (hne : f ≠ [])
    (hlen : f.length ≤ s₁.count) (h : Fills (s₁.deliver true f) t s') : Fills s (some f :: t) s' where
  frames := by
    rw [h.frames]
    show (s₁.frames ++ [f]) ++ _ = _
    rw [hframes, List.append_assoc]
    rfl
  count := by
    rw [h.count, load_deliver hp (hptr ▸ h6), hmem, List.reduceOption_cons_of_some, List.length_cons,
      BitVec.add_assoc]
    refine congrArg (s.memory.load16 4 + ·) ?_
    rw [Nat.add_comm, BitVec.ofNat_add]
    rfl
  area := by
    have ha := h.area
    rw [area_deliver hp (hptr ▸ h6), hptr, hmem] at ha
    have hp' : (s₁.deliver true f).p = s.p + (record f).length := by rw [p_deliver hp, hptr]
    rw [hp'] at ha
    show s'.memory.slice s.p (record f ++ _).length = _
    rw [List.length_append, slice_add, ha]
    refine congrArg (· ++ _) ?_
    rw [← slice_deliver hp (hptr ▸ h6), hptr, length_slice]
    refine slice_congr fun i hi hlt => ?_
    exact h.before i (by omega) (by omega)
  before i hi h4 := by
    have hlt : i < (s₁.deliver true f).p := by
      show i < s₁.p + f.length
      omega
    rw [h.before i hlt h4, byte_deliver hp (Or.inl (by omega)) h4, hmem]
  fits := by
    have hf := h.fits
    have hcount : (s₁.deliver true f).count = s₁.count - f.length := rfl
    rw [area_deliver hp (hptr ▸ h6), hptr, hmem, hcount] at hf
    show (record f ++ _).length ≤ _
    rw [List.length_append, length_record]
    rw [length_record] at hf
    omega
  inside hm := by
    have hn : (s₁.deliver true f).p + (s₁.deliver true f).count = s.p + s.count := by
      show s₁.p + f.length + (s₁.count - f.length) = _
      omega
    rw [← hn]
    refine h.inside (within_deliver hp (hptr ▸ h6) ?_ ?_)
    · rw [hn]
      omega
    · rw [hn, hmem]
      exact hm
  nonempty g hg := by
    rw [List.reduceOption_cons_of_some] at hg
    rcases List.mem_cons.1 hg with rfl | hg
    · exact hne
    · exact h.nonempty g hg

theorem ready_of_le {s : ReadLoop} (h : ¬2 < s.count) :
    ∃ s', s.ready true = (false, s') ∧ s'.frames = s.frames ∧ s'.memory = s.memory := by
  unfold ready
  split
  · exact ⟨s, rfl, rfl, rfl⟩
  · rw [if_pos rfl]
    dsimp only
    rw [if_neg h]
    exact ⟨_, rfl, rfl, rfl⟩

/-- The field for the size is taken. -/
def reserved (s : ReadLoop) : ReadLoop :=
  { s with frameSizePtr := s.p, p := s.p + 2, count := s.count - 2 }

theorem ready_of_lt {s : ReadLoop} (h : 2 < s.count) : s.ready true = (true, s.reserved) := by
  unfold ready
  rw [if_neg (by omega), if_pos rfl]
  dsimp only
  rw [if_pos h]
  rfl

/-- The loop is left, with what has arrived packed, or it is not left. -/
def Ends (s : ReadLoop) (a : Option (List (Option (List Byte)))) (l : Option (Bool × ReadLoop)) : Prop :=
  (a = none ∧ ∀ s', l ≠ some (true, s')) ∨
    ∃ t s', a = some t ∧ l = some (true, s') ∧ Fills s t s'

theorem Ends.cons {s s₁ : ReadLoop} {x : Option (List Byte)} {a : Option (List (Option (List Byte)))}
    {l : Option (Bool × ReadLoop)} (h : Ends s₁ a l)
    (hx : ∀ t s', Fills s₁ t s' → Fills s (x :: t) s') : Ends s (a.map (x :: ·)) l := by
  rcases h with ⟨rfl, hl⟩ | ⟨t, s', rfl, rfl, hf⟩
  · exact Or.inl ⟨rfl, hl⟩
  · exact Or.inr ⟨x :: t, s', rfl, rfl, hx t s' hf⟩

theorem Ends.nil {s s' : ReadLoop} (hf : s'.frames = s.frames) (hm : s'.memory = s.memory) :
    Ends s (some []) (some (true, s')) := Or.inr ⟨[], s', rfl, rfl, .nil hf hm⟩

/-- **The loop on AAC.** -/
theorem ends_loop (rs : List DriverRead) (s : ReadLoop) (h6 : 6 ≤ s.p) :
    Ends s (arrivals s.mFirstread s.count rs) (loop true rs s) := by
  have hfalse : ¬false = true := by decide
  induction rs generalizing s with
  | nil =>
    unfold arrivals loop
    by_cases h : 2 < s.count
    · rw [ready_of_lt h, if_pos h, if_pos rfl]
      exact Or.inl ⟨rfl, by nofun⟩
    · obtain ⟨s', he, hf, hm⟩ := ready_of_le h
      rw [he, if_neg h, if_neg hfalse]
      exact .nil hf hm
  | cons r rs ih =>
    unfold arrivals loop
    by_cases h : 2 < s.count
    · rw [ready_of_lt h, if_pos h, if_pos rfl]
      have h6' : 6 ≤ s.reserved.p := Nat.le_add_right_of_le h6
      have hcount : s.count = s.reserved.count + 2 := (Nat.sub_add_cancel (Nat.le_of_lt h)).symm
      cases r with
      | zero => exact .nil rfl rfl
      | error => exact Or.inl ⟨rfl, by nofun⟩
      | eagain =>
        refine (ih { s.reserved with mRetryCount := s.mRetryCount + 1 } h6').cons fun t s' hf => ?_
        exact @Fills.none s { s.reserved with mRetryCount := s.mRetryCount + 1 } s' t hcount rfl rfl rfl
          h6 hf
      | frame b bs =>
        have hne : (b :: bs).take s.reserved.count ≠ [] := by
          have hpos : s.reserved.count ≠ 0 := by omega
          intro hnil
          rcases List.take_eq_nil_iff.1 hnil with h0 | h0
          · exact hpos h0
          · cases h0
        have hlen : ((b :: bs).take s.reserved.count).length ≤ s.reserved.count :=
          List.length_take_le s.reserved.count (b :: bs)
        have hsome : ∀ t s', Fills (s.reserved.deliver true ((b :: bs).take s.reserved.count)) t s' →
            Fills s (some ((b :: bs).take s.reserved.count) :: t) s' := fun t s' hf =>
          .some rfl rfl hcount rfl rfl h6 hne hlen hf
        dsimp only
        have hfirst : (s.reserved.deliver true ((b :: bs).take s.reserved.count)).mFirstread =
            s.mFirstread := rfl
        rw [hfirst]
        cases hm : s.mFirstread with
        | false =>
          have hleft : Ends (s.reserved.deliver true ((b :: bs).take s.reserved.count)) (some [])
              (some (true, { s.reserved.deliver true ((b :: bs).take s.reserved.count) with
                mFirstread := true })) := .nil rfl rfl
          exact hleft.cons hsome
        | true =>
          rw [if_pos rfl, if_pos rfl]
          have hnext := ih (s.reserved.deliver true ((b :: bs).take s.reserved.count))
            (Nat.le_add_right_of_le h6')
          rw [hfirst, hm] at hnext
          exact hnext.cons hsome
    · obtain ⟨s', he, hf, hm⟩ := ready_of_le h
      rw [he, if_neg h, if_neg hfalse]
      exact .nil hf hm

end ReadLoop

/-! ### Frames and retries -/

/-- Frames come first, or up to the first `EAGAIN`. -/
theorem frames_first (t : List (Option (List Byte))) :
    ∃ fs : List (List Byte), t = fs.map some ∨ ∃ t', t = fs.map some ++ none :: t' := by
  induction t with
  | nil => exact ⟨[], Or.inl rfl⟩
  | cons r t ih =>
    cases r with
    | none => exact ⟨[], Or.inr ⟨t, rfl⟩⟩
    | some f =>
      obtain ⟨fs, rfl | ⟨t', rfl⟩⟩ := ih
      · exact ⟨f :: fs, Or.inl rfl⟩
      · exact ⟨f :: fs, Or.inr ⟨t', rfl⟩⟩

theorem reduceOption_frames (fs : List (List Byte)) : (fs.map some).reduceOption = fs := by
  unfold List.reduceOption
  rw [List.filterMap_map]
  exact List.filterMap_some

theorem noFrameAfterRetry_frames (fs : List (List Byte)) : NoFrameAfterRetry (fs.map some) := by
  refine List.pairwise_map.2 (List.pairwise_of_forall ?_)
  intro f g hf
  cases hf

theorem noFrameAfterRetry_retry (fs : List (List Byte)) (t : List (Option (List Byte))) :
    NoFrameAfterRetry (fs.map some ++ none :: t) ↔ t.reduceOption = [] := by
  unfold NoFrameAfterRetry
  rw [List.pairwise_append, List.pairwise_cons]
  constructor
  · rintro ⟨-, ⟨hnone, -⟩, -⟩
    refine List.filterMap_eq_nil_iff.2 fun r hr => ?_
    exact hnone r hr rfl
  · intro hnil
    have hnone : ∀ r ∈ t, r = none := fun r hr => List.filterMap_eq_nil_iff.1 hnil r hr
    refine ⟨noFrameAfterRetry_frames fs, ⟨fun r hr _ => hnone r hr, ?_⟩, ?_⟩
    · refine List.Pairwise.imp_of_mem ?_ (List.pairwise_of_forall fun _ _ => trivial)
      intro r r' _ hr' _ _
      exact hnone r' hr'
    · intro r hr _ _ he
      obtain ⟨f, -, rfl⟩ := List.mem_map.1 hr
      cases he

theorem area_frames (m : Memory) (a : ℕ) (fs : List (List Byte)) (t : List (Option (List Byte))) :
    area m a (fs.map some ++ t) = layOut fs ++ area m (a + (layOut fs).length) t := by
  induction fs generalizing a with
  | nil => rfl
  | cons f fs ih =>
    have hcons : layOut (f :: fs) = record f ++ layOut fs := List.flatMap_cons
    rw [hcons, List.map_cons, List.cons_append]
    show record f ++ area m (a + (record f).length) (fs.map some ++ t) = _
    rw [ih, List.length_append, List.append_assoc, Nat.add_assoc]

theorem length_reduceOption_le_area (m : Memory) (a : ℕ) (t : List (Option (List Byte))) :
    t.reduceOption.length ≤ (area m a t).length := by
  induction t generalizing a with
  | nil => exact Nat.zero_le _
  | cons r t ih =>
    cases r with
    | none =>
      show t.reduceOption.length ≤ (m.slice a 2 ++ area m (a + 2) t).length
      rw [List.length_append]
      exact Nat.le_add_left_of_le (ih _)
    | some f =>
      have hlen := ih (a + (record f).length)
      show (f :: t.reduceOption).length ≤ (record f ++ area m (a + (record f).length) t).length
      have hrec := length_record f
      rw [List.length_cons, List.length_append]
      omega

theorem length_le_layOut {fs : List (List Byte)} {f : List Byte} (hf : f ∈ fs) :
    f.length ≤ (layOut fs).length := by
  obtain ⟨l, l', rfl⟩ := List.append_of_mem hf
  have hcons : layOut (f :: l') = record f ++ layOut l' := List.flatMap_cons
  rw [layOut_append, hcons, List.length_append, List.length_append, length_record]
  omega

/-! ### The buffer -/

section Buffer

variable {x : AudioStreamInMSM72xx} {bytes : BitVec 32} {m : Memory}

/-- The header is in place when the loop begins. -/
structure Begun (bytes : BitVec 32) (m : Memory) (s : ReadLoop) : Prop where
  p : s.p = 6
  total : s.p + s.count = bytes.toNat
  frames : s.frames = []
  magic : s.memory.slice 0 4 = bytes32 0x51434F4D
  zero : s.memory.load16 4 = 0#16
  kept : ∀ i, 6 ≤ i → s.memory.byte i = m.byte i
  inside : s.memory.Within bytes.toNat

theorem begun_start (haac : x.mFormat = .aac) (hlo : 8 ≤ bytes.toNat) (hm : m.written = []) :
    Begun bytes m (.start x bytes m) := by
  have hp : (ReadLoop.start x bytes m).p = 6 := if_pos (decide_eq_true haac)
  have hcount : (ReadLoop.start x bytes m).count = (bytes - 6).toNat := if_pos (decide_eq_true haac)
  have hmem : (ReadLoop.start x bytes m).memory = aacHeader m := if_pos (decide_eq_true haac)
  have hmagic : (bytes32 0x51434F4D).length = 4 := rfl
  have hzero : (bytes16 0).length = 2 := rfl
  refine ⟨hp, ?_, rfl, ?_, ?_, ?_, ?_⟩
  · have hle : (6 : BitVec 32) ≤ bytes := by
      rw [BitVec.le_def]
      exact Nat.le_trans (by decide) hlo
    rw [hp, hcount, BitVec.toNat_sub_of_le hle]
    have h6 : (6 : BitVec 32).toNat = 6 := rfl
    rw [h6]
    omega
  · rw [hmem]
    unfold aacHeader Memory.store16
    rw [slice_store_of_disjoint _ _ (Or.inl (Nat.le_refl 4))]
    exact slice_store 0 (bytes32 0x51434F4D) m
  · rw [hmem]
    exact load16_store16 4 0 _
  · intro i hi
    rw [hmem]
    unfold aacHeader Memory.store16
    rw [byte_store_of_disjoint, byte_store_of_disjoint]
    · rw [hmagic]
      omega
    · rw [hzero]
      exact Or.inr hi
  · rw [hmem]
    have hnone : m.Within bytes.toNat := by
      intro i hi
      rw [hm] at hi
      cases hi
    refine within_store (within_store hnone ?_) ?_
    · rw [hmagic]
      omega
    · rw [hzero]
      show 4 + 2 ≤ _
      omega

variable {s s' : ReadLoop} {t : List (Option (List Byte))} {r : ReadResult}

/-- What is packed when no frame comes after an `EAGAIN`. -/
theorem packed_of_fills (hhi : bytes.toNat ≤ 65535) (hb : Begun bytes m s) (h : s.Fills t s')
    (hmem : r.memory = s'.memory) (hframes : r.frames = s'.frames) (ht : NoFrameAfterRetry t) :
    Packed bytes r := by
  have hfr : s'.frames = t.reduceOption := by
    rw [h.frames, hb.frames]
    exact List.nil_append _
  have hfits := h.fits
  have htotal := hb.total
  have hp := hb.p
  obtain ⟨t', harea⟩ : ∃ t', area s.memory s.p t = layOut t.reduceOption ++ t' := by
    obtain ⟨fs, rfl | ⟨u, rfl⟩⟩ := frames_first t
    · refine ⟨[], ?_⟩
      have happ := area_frames s.memory s.p fs []
      rw [List.append_nil] at happ
      rw [happ, reduceOption_frames]
      rfl
    · refine ⟨area s.memory (s.p + (layOut fs).length) (none :: u), ?_⟩
      have hnil := (noFrameAfterRetry_retry fs u).1 ht
      have hred : (fs.map some ++ none :: u).reduceOption = fs := by
        rw [List.reduceOption_append, reduceOption_frames, List.reduceOption_cons_of_none, hnil,
          List.append_nil]
      rw [area_frames, hred]
  have hslice := h.area
  rw [harea] at hslice hfits
  rw [List.length_append] at hfits
  have hlay : s'.memory.slice 6 (layOut t.reduceOption).length = layOut t.reduceOption := by
    rw [← hp]
    exact (slice_append hslice).1
  have hlen : t.reduceOption.length ≤ s.count :=
    Nat.le_trans (length_reduceOption_le_area s.memory s.p t) h.fits
  refine ⟨?_, ?_, ?_, ?_, ?_⟩
  · rw [hmem, ← hb.magic]
    exact slice_congr fun i _ hi => h.before i (by omega) (Or.inl (by omega))
  · rw [hmem, hframes, hfr, h.count, hb.zero, BitVec.zero_add, BitVec.toNat_ofNat]
    exact Nat.mod_eq_of_lt (by omega)
  · rw [hmem, hframes, hfr]
    refine (records_of_slice (fun f hf => ?_) hlay 0).trans (List.append_nil _)
    have hle := length_le_layOut hf
    omega
  · rw [hframes, hfr]
    omega
  · rw [hmem]
    rw [← htotal]
    refine h.inside ?_
    rw [htotal]
    exact hb.inside

/-- In a buffer of zeros the field that an `EAGAIN` has left reads as a frame without bytes. -/
theorem noFrameAfterRetry_of_packed (hb : Begun bytes ⟨fun _ => 0, []⟩ s) (h : s.Fills t s')
    (hmem : r.memory = s'.memory) (hframes : r.frames = s'.frames) (hhi : bytes.toNat ≤ 65535)
    (hr : Packed bytes r) : NoFrameAfterRetry t := by
  obtain ⟨fs, rfl | ⟨u, rfl⟩⟩ := frames_first t
  · exact noFrameAfterRetry_frames fs
  · refine (noFrameAfterRetry_retry fs u).2 ?_
    have hred : (fs.map some ++ none :: u).reduceOption = fs ++ u.reduceOption := by
      rw [List.reduceOption_append, reduceOption_frames, List.reduceOption_cons_of_none]
    have hfr : r.frames = fs ++ u.reduceOption := by
      rw [hframes, h.frames, hb.frames, hred]
      exact List.nil_append _
    cases hu : u.reduceOption with
    | nil => rfl
    | cons g gs =>
      exfalso
      have hp := hb.p
      have hslice := h.area
      have hfits := h.fits
      have htotal := hb.total
      rw [area_frames] at hslice hfits
      rw [List.length_append] at hfits
      obtain ⟨hlay, hrest⟩ := slice_append hslice
      rw [hp] at hlay hrest
      have hfield : s'.memory.slice (6 + (layOut fs).length) 2 = [0, 0] := by
        have hu' : area s.memory (6 + (layOut fs).length) (none :: u) =
          s.memory.slice (6 + (layOut fs).length) 2 ++
            area s.memory (6 + (layOut fs).length + 2) u := rfl
        rw [hu'] at hrest
        have hfirst := (slice_append hrest).1
        rw [length_slice] at hfirst
        rw [hfirst, slice_succ, slice_succ, slice_zero, hb.kept _ (by omega), hb.kept _ (by omega)]
      have hload : (s'.memory.load16 (6 + (layOut fs).length)).toNat = 0 := by
        unfold Memory.load16
        rw [hfield]
        rfl
      have hrec := hr.records
      have hn : (fs ++ g :: gs).length = fs.length + (gs.length + 1) := List.length_append
      rw [hfr, hu, hmem, hn, records_of_slice ?_ hlay] at hrec
      · have hhead := List.append_cancel_left hrec
        rw [Memory.records, hload, slice_zero] at hhead
        have hg : g ∈ (fs.map some ++ none :: u).reduceOption := by
          rw [hred, hu]
          exact List.mem_append_right fs List.mem_cons_self
        exact h.nonempty g hg (List.cons.inj hhead).1.symm
      · intro f hf
        have hle := length_le_layOut hf
        omega

end Buffer

/-! ### `read` -/

/-- The prelude does nothing on a stream that is started. -/
theorem openForRead_started (h : InputHeaders) (a : Recorder.ReadAnswers) {x : AudioStreamInMSM72xx}
    (s : Recorder) (hst : x.mState = .started) :
    Recorder.openForRead h a x s = (x.mHardware, x, s) := by
  have hne : InputState.started ≠ .closed := by decide
  unfold Recorder.openForRead
  cases hhw : x.mHardware with
  | false => exact if_pos rfl
  | true =>
    rw [if_neg (by decide), hst, if_neg hne]
    unfold Recorder.startRecord
    exact if_pos hst

theorem toInt_of_small {bytes : BitVec 32} (hhi : bytes.toNat ≤ 65535) :
    bytes.toInt = (bytes.toNat : Int) := by
  refine BitVec.toInt_eq_toNat_of_lt ?_
  omega

/-- **AAC capture packing decodes to what the driver delivered**, in every buffer, exactly if no frame
comes after an `EAGAIN`. -/
theorem packs_iff {h : InputHeaders} {a : Recorder.ReadAnswers} {x : AudioStreamInMSM72xx}
    {s : Recorder} {bytes : BitVec 32} {rs : List DriverRead} (hlo : 8 ≤ bytes.toNat)
    (hhi : bytes.toNat ≤ 65535) (haac : x.mFormat = .aac) (hst : x.mState = .started) :
    (∀ (byte : ℕ → Byte) (r : ReadResult) (s' : Recorder),
        read h a x s bytes ⟨byte, []⟩ rs = some (r, s') → r.ret = bytes.toInt → Packed bytes r) ↔
      (x.mHardware = true → ∀ t, arrivals x.mFirstread (bytes.toNat - 6) rs = some t →
        NoFrameAfterRetry t) := by
  have hfailed : failed ≠ bytes.toInt := by
    rw [toInt_of_small hhi]
    show (-1 : Int) ≠ _
    omega
  have hread : ∀ m, x.mHardware = true → read h a x s bytes m rs =
      (ReadLoop.loop true rs (.start x bytes m)).map fun l => (readReturns x bytes l, s) := by
    intro m hhw
    unfold read
    rw [openForRead_started h a s hst, hhw]
    dsimp only
    rw [if_pos rfl, haac]
    rfl
  have hbegun : ∀ byte, Begun bytes ⟨byte, []⟩ (.start x bytes ⟨byte, []⟩) := fun byte =>
    begun_start haac hlo rfl
  have hends : ∀ byte, (ReadLoop.start x bytes ⟨byte, []⟩).Ends
      (arrivals x.mFirstread (bytes.toNat - 6) rs)
      (ReadLoop.loop true rs (.start x bytes ⟨byte, []⟩)) := by
    intro byte
    have htotal := (hbegun byte).total
    have hp := (hbegun byte).p
    have hcount : (ReadLoop.start x bytes ⟨byte, []⟩).count = bytes.toNat - 6 := by omega
    have hloop := ReadLoop.ends_loop rs (.start x bytes ⟨byte, []⟩) (Nat.le_of_eq hp.symm)
    rw [hcount] at hloop
    exact hloop
  constructor
  · intro hpacked hhw t ht
    rcases hends (fun _ => 0) with ⟨hnone, -⟩ | ⟨t', s', ht', hl, hfills⟩
    · rw [hnone] at ht
      cases ht
    · cases ht.symm.trans ht'
      have hr := hpacked (fun _ => 0) (readReturns x bytes (true, s')) s
        (by rw [hread _ hhw, hl]; rfl) (if_pos haac)
      exact noFrameAfterRetry_of_packed (hbegun fun _ => 0) hfills rfl rfl hhi hr
  · intro ht byte r s' hr hret
    cases hhw : x.mHardware with
    | false =>
      unfold read at hr
      rw [openForRead_started h a s hst, hhw] at hr
      cases hr
      exact absurd hret hfailed
    | true =>
      rw [hread _ hhw] at hr
      obtain ⟨⟨left, l⟩, hl, he⟩ := Option.map_eq_some_iff.1 hr
      cases he
      cases left with
      | false => exact absurd hret hfailed
      | true =>
        rcases hends byte with ⟨-, hnone⟩ | ⟨t, l', hsome, hl', hfills⟩
        · exact absurd hl (hnone l)
        · cases hl.symm.trans hl'
          exact packed_of_fills hhi (hbegun byte) hfills rfl rfl (ht hhw t hsome)

/-- A stream that records AAC, before its first frame. -/
def aacRecording : AudioStreamInMSM72xx where
  mHardware := true
  mFd := 3
  mState := .started
  mFormat := .aac
  mChannels := 0x10
  mFirstread := false

/-- A `read` of 20 bytes. -/
def readAac (rs : List DriverRead) (byte : ℕ → Byte) : Option (ReadResult × Recorder) :=
  read ⟨0x10, 0xC⟩ ⟨{ fd := 3, getConfig := none }, true, fun _ => true⟩ aacRecording
    { audpp_filter_inited := false } 20 ⟨byte, []⟩ rs

theorem packs_one_frame : ∃ r s, readAac [.frame 1 [2, 3]] (fun _ => 0) = some (r, s) ∧
    r.frames = [[1, 2, 3]] ∧ Packed 20 r := by
  have hpacked : ∀ byte r s, readAac [.frame 1 [2, 3]] byte = some (r, s) →
      r.ret = (20 : BitVec 32).toInt → Packed 20 r := by
    refine (packs_iff (by decide) (by decide) rfl rfl).2 ?_
    intro _ t ht
    cases ht
    exact noFrameAfterRetry_frames [[1, 2, 3]]
  exact ⟨_, _, rfl, rfl, hpacked (fun _ => 0) _ _ rfl rfl⟩

/-- An `EAGAIN` and a frame of three bytes: a reader finds a frame of no bytes. -/
theorem retry_misaligns : ∃ r s, readAac [.eagain, .frame 1 [2, 3]] (fun _ => 0) = some (r, s) ∧
    r.ret = 20 ∧ r.frames = [[1, 2, 3]] ∧ r.memory.records 6 1 = [[]] ∧ ¬Packed 20 r := by
  refine ⟨_, _, rfl, rfl, rfl, rfl, fun hp => ?_⟩
  have hrec := hp.records
  cases hrec

end Msm7x27a.Recording
