import Mathlib.Tactic.Common

/-!
# Reading tokens one after the other

A scanner walks along a list of tokens and puts out something on its way; it may stop with an error,
and what it has put out by then stays.  `Emits P` says that everything a scanner puts out, also before
an error, has property `P`.  `Reads cs` says what a scanner of the plainest form does on any list of
tokens: it makes one output of each token, by the functions `cs` in order, until they run out.
-/

namespace Msm7x27a.Scan

variable {τ ε ω α β : Type}

/-- The token a scanner is at, and the tokens after it. -/
structure Cursor (τ : Type) where
  p : τ
  rest : List τ

/-- What is put out, and the error or the result and where the scanner is then. -/
structure Scanner (τ ε ω α : Type) where
  run : Cursor τ → List ω × Except ε (α × Cursor τ)

/-- `m`, and then what `f` makes of its result. -/
def andThen (m : Scanner τ ε ω α) (f : α → Scanner τ ε ω β) : Scanner τ ε ω β where
  run s := match m.run s with
    | (ws, .error e) => (ws, .error e)
    | (ws, .ok (a, s')) => (ws ++ ((f a).run s').1, ((f a).run s').2)

instance : Monad (Scanner τ ε ω) where
  pure a := ⟨fun s => ([], .ok (a, s))⟩
  bind := andThen

/-- Go to the next token; `err` is the error if there is none. -/
def next (err : ε) : Scanner τ ε ω Unit where
  run s := match s.rest with
    | [] => ([], .error err)
    | t :: ts => ([], .ok ((), ⟨t, ts⟩))

/-- The token the scanner is at. -/
def token : Scanner τ ε ω τ := ⟨fun s => ([], .ok (s.p, s))⟩

def emit (w : ω) : Scanner τ ε ω Unit := ⟨fun s => ([w], .ok ((), s))⟩

def fail (err : ε) : Scanner τ ε ω α := ⟨fun _ => ([], .error err)⟩

/-- The output that `c` makes of the token the scanner is at. -/
def put (c : τ → ω) : Scanner τ ε ω Unit := ⟨fun s => ([c s.p], .ok ((), s))⟩

/-- `for (i = 0; i < n; i++)` -/
def loop : ℕ → (ℕ → Scanner τ ε ω Unit) → Scanner τ ε ω Unit
  | 0, _ => pure ()
  | n + 1, f => do loop n f; f n

variable {m : Scanner τ ε ω α} {f : α → Scanner τ ε ω β} {s s' : Cursor τ} {ws : List ω} {a : α} {err : ε}

@[simp] theorem run_pure (a : α) (s : Cursor τ) :
    (pure a : Scanner τ ε ω α).run s = ([], .ok (a, s)) := rfl

@[simp] theorem run_emit (w : ω) (s : Cursor τ) :
    (emit w : Scanner τ ε ω Unit).run s = ([w], .ok ((), s)) := rfl

@[simp] theorem run_put (c : τ → ω) (s : Cursor τ) :
    (put c : Scanner τ ε ω Unit).run s = ([c s.p], .ok ((), s)) := rfl

theorem next_nil (err : ε) (p : τ) :
    (next err : Scanner τ ε ω Unit).run ⟨p, []⟩ = ([], .error err) := rfl

theorem next_cons (err : ε) (p t : τ) (ts : List τ) :
    (next err : Scanner τ ε ω Unit).run ⟨p, t :: ts⟩ = ([], .ok ((), ⟨t, ts⟩)) := rfl

/-- A scanner goes on where the one before it has ended. -/
theorem bind_ok (h : m.run s = (ws, .ok (a, s'))) :
    (m >>= f).run s = (ws ++ ((f a).run s').1, ((f a).run s').2) := by
  change (andThen m f).run s = _
  unfold andThen
  dsimp only
  rw [h]

theorem bind_error (h : m.run s = (ws, .error err)) : (m >>= f).run s = (ws, .error err) := by
  change (andThen m f).run s = _
  unfold andThen
  dsimp only
  rw [h]

theorem Scanner.ext {m m' : Scanner τ ε ω α} (h : ∀ s, m.run s = m'.run s) : m = m' := by
  cases m
  cases m'
  congr
  funext s
  exact h s

theorem bind_assoc {γ : Type} (m : Scanner τ ε ω α) (f : α → Scanner τ ε ω β)
    (g : β → Scanner τ ε ω γ) : (m >>= f) >>= g = m >>= fun a => f a >>= g := by
  apply Scanner.ext
  intro s
  rcases hm : m.run s with ⟨ws, e | ⟨a, s'⟩⟩
  · rw [bind_error hm, bind_error (bind_error hm)]
  · rw [bind_ok hm]
    rcases hf : (f a).run s' with ⟨ws', e | ⟨b, s''⟩⟩
    · rw [bind_error hf]
      apply bind_error
      rw [bind_ok hm, hf]
    · have hmf : (m >>= f).run s = (ws ++ ws', .ok (b, s'')) := by rw [bind_ok hm, hf]
      rw [bind_ok hf, bind_ok hmf, List.append_assoc]

theorem pure_bind (a : α) (f : α → Scanner τ ε ω β) : pure a >>= f = f a := by
  apply Scanner.ext
  intro s
  rw [bind_ok (run_pure a s), List.nil_append]

theorem run_loop_emit (n : ℕ) (w : ℕ → ω) (s : Cursor τ) :
    (loop n fun i => emit (w i) : Scanner τ ε ω Unit).run s = ((List.range n).map w, .ok ((), s)) := by
  induction n with
  | zero => rfl
  | succ n ih =>
    unfold loop
    rw [bind_ok ih, run_emit, List.range_succ, List.map_append, List.map_singleton]

/-! ### Everything that is put out -/

/-- All that `m` puts out has property `P`. -/
def Emits (P : ω → Prop) (m : Scanner τ ε ω α) : Prop := ∀ s, ∀ w ∈ (m.run s).1, P w

section Emits

variable {P : ω → Prop}

theorem emits_pure (a : α) : Emits P (pure a : Scanner τ ε ω α) := fun _ _ hw => by simp at hw

theorem emits_fail (err : ε) : Emits P (fail err : Scanner τ ε ω α) := fun _ _ hw => by simp [fail] at hw

theorem emits_token : Emits P (token : Scanner τ ε ω τ) := fun _ _ hw => by simp [token] at hw

theorem emits_next (err : ε) : Emits P (next err : Scanner τ ε ω Unit) := by
  rintro ⟨p, _ | ⟨t, ts⟩⟩ w hw
  · simp [next_nil] at hw
  · simp [next_cons] at hw

theorem emits_emit {w : ω} (h : P w) : Emits P (emit w : Scanner τ ε ω Unit) := by
  intro s w' hw
  rw [List.mem_singleton.1 hw]
  exact h

theorem emits_put {c : τ → ω} (h : ∀ p, P (c p)) : Emits P (put c : Scanner τ ε ω Unit) := by
  intro s w hw
  rw [List.mem_singleton.1 hw]
  exact h s.p

theorem Emits.bind (hm : Emits P m) (hf : ∀ a, Emits P (f a)) : Emits P (m >>= f) := by
  intro s w hw
  have hms := hm s w
  rcases h : m.run s with ⟨ws, e | ⟨a, s'⟩⟩
  · rw [bind_error h] at hw
    rw [h] at hms
    exact hms hw
  · rw [bind_ok h] at hw
    rw [h] at hms
    rcases List.mem_append.1 hw with hw | hw
    · exact hms hw
    · exact hf a s' w hw

theorem emits_loop {n : ℕ} {f : ℕ → Scanner τ ε ω Unit} (h : ∀ i < n, Emits P (f i)) :
    Emits P (loop n f) := by
  induction n with
  | zero => exact emits_pure ()
  | succ n ih => exact (ih fun i hi => h i (by omega)).bind fun _ => h n (by omega)

end Emits

/-! ### Scanners that read their tokens in order -/

/-- `m` makes one output of each token, by the functions `cs`; it ends with an error if there are
fewer tokens. -/
structure Reads (m : Scanner τ ε ω Unit) (cs : List (τ → ω)) : Prop where
  out : ∀ s, (m.run s).1 = List.zipWith (fun c t => c t) cs s.rest
  done : ∀ s, cs.length ≤ s.rest.length → ∃ p, (m.run s).2 = .ok ((), ⟨p, s.rest.drop cs.length⟩)
  short : ∀ s, s.rest.length < cs.length → ∃ err, (m.run s).2 = .error err

section Reads

variable {m m' : Scanner τ ε ω Unit} {cs cs' : List (τ → ω)}

theorem reads_pure : Reads (pure () : Scanner τ ε ω Unit) [] :=
  ⟨fun _ => rfl, fun s _ => ⟨s.p, rfl⟩, fun _ h => absurd h (by simp)⟩

/-- Going to the next token and putting it out. -/
theorem reads_next_put (err : ε) (c : τ → ω) : Reads (do next err; put c : Scanner τ ε ω Unit) [c] := by
  constructor
  · rintro ⟨p, _ | ⟨t, ts⟩⟩
    · rw [bind_error (next_nil err p)]
      rfl
    · rw [bind_ok (next_cons err p t ts)]
      rfl
  · rintro ⟨p, _ | ⟨t, ts⟩⟩ hs
    · simp at hs
    · rw [bind_ok (next_cons err p t ts)]
      exact ⟨t, rfl⟩
  · rintro ⟨p, _ | ⟨t, ts⟩⟩ hs
    · rw [bind_error (next_nil err p)]
      exact ⟨err, rfl⟩
    · simp at hs

/-- The functions `cs'` come after as many tokens as there are functions `cs`. -/
theorem zipWith_append_cs (cs cs' : List (τ → ω)) (ts : List τ) :
    List.zipWith (fun c t => c t) (cs ++ cs') ts =
      List.zipWith (fun c t => c t) cs ts ++ List.zipWith (fun c t => c t) cs' (ts.drop cs.length) := by
  induction cs generalizing ts with
  | nil => rfl
  | cons c cs ih =>
    cases ts with
    | nil => simp
    | cons t ts => simpa using ih ts

theorem Reads.bind (h : Reads m cs) (h' : Reads m' cs') : Reads (do m; m') (cs ++ cs') := by
  constructor
  · intro s
    rw [zipWith_append_cs]
    rcases Nat.lt_or_ge s.rest.length cs.length with hlt | hge
    · -- `m` ends with the error, and there is no token left for `cs'`
      obtain ⟨e, he⟩ := h.short s hlt
      rw [bind_error (Prod.ext (h.out s) he), List.drop_of_length_le (Nat.le_of_lt hlt), List.zipWith_nil_right,
        List.append_nil]
    · obtain ⟨p, hp⟩ := h.done s hge
      rw [bind_ok (Prod.ext (h.out s) hp), h'.out]
  · intro s hs
    rw [List.length_append] at hs
    obtain ⟨p, hp⟩ := h.done s (by omega)
    obtain ⟨q, hq⟩ := h'.done ⟨p, s.rest.drop cs.length⟩ (by rw [List.length_drop]; omega)
    refine ⟨q, ?_⟩
    rw [bind_ok (Prod.ext rfl hp), hq, List.drop_drop, List.length_append]
  · intro s hs
    rw [List.length_append] at hs
    rcases Nat.lt_or_ge s.rest.length cs.length with hlt | hge
    · obtain ⟨e, he⟩ := h.short s hlt
      exact ⟨e, by rw [bind_error (Prod.ext rfl he)]⟩
    · obtain ⟨p, hp⟩ := h.done s hge
      obtain ⟨e, he⟩ := h'.short ⟨p, s.rest.drop cs.length⟩ (by rw [List.length_drop]; omega)
      exact ⟨e, by rw [bind_ok (Prod.ext rfl hp), he]⟩

theorem reads_loop {n : ℕ} {f : ℕ → Scanner τ ε ω Unit} {cs : ℕ → List (τ → ω)}
    (h : ∀ i, Reads (f i) (cs i)) : Reads (loop n f) ((List.range n).flatMap cs) := by
  induction n with
  | zero => exact reads_pure
  | succ n ih =>
    rw [List.range_succ, List.flatMap_append, List.flatMap_singleton]
    exact ih.bind (h n)

end Reads

/-! ### How many tokens a scanner takes -/

/-- `m` ends with the error, or it has taken `k` tokens. -/
def Takes (err : ε) (k : ℕ) (m : Scanner τ ε ω α) : Prop :=
  ∀ s, (m.run s).2 = .error err ∨
    ∃ a s', (m.run s).2 = .ok (a, s') ∧ s.rest.length = k + s'.rest.length

section Takes

variable {k k' n : ℕ}

theorem takes_pure (a : α) : Takes err 0 (pure a : Scanner τ ε ω α) :=
  fun s => .inr ⟨a, s, rfl, (Nat.zero_add _).symm⟩

theorem takes_token : Takes err 0 (token : Scanner τ ε ω τ) :=
  fun s => .inr ⟨s.p, s, rfl, (Nat.zero_add _).symm⟩

theorem takes_emit (w : ω) : Takes err 0 (emit w : Scanner τ ε ω Unit) :=
  fun s => .inr ⟨(), s, rfl, (Nat.zero_add _).symm⟩

theorem takes_put (c : τ → ω) : Takes err 0 (put c : Scanner τ ε ω Unit) :=
  fun s => .inr ⟨(), s, rfl, (Nat.zero_add _).symm⟩

theorem takes_next : Takes err 1 (next err : Scanner τ ε ω Unit) := by
  rintro ⟨p, _ | ⟨t, ts⟩⟩
  · exact .inl rfl
  · exact .inr ⟨(), ⟨t, ts⟩, rfl, Nat.add_comm ..⟩

theorem Takes.bind (hm : Takes err k m) (hf : ∀ a, Takes err k' (f a)) :
    Takes err (k + k') (m >>= f) := by
  intro s
  rcases hm s with he | ⟨a, s', hok, hlen⟩
  · exact .inl (by rw [bind_error (Prod.ext rfl he)])
  · rcases hf a s' with he | ⟨b, s'', hok', hlen'⟩
    · exact .inl (by rw [bind_ok (Prod.ext rfl hok), he])
    · exact .inr ⟨b, s'', by rw [bind_ok (Prod.ext rfl hok), hok'], by omega⟩

theorem takes_loop {f : ℕ → Scanner τ ε ω Unit} (h : ∀ i, Takes err k (f i)) :
    Takes err (n * k) (loop n f) := by
  induction n with
  | zero =>
    rw [Nat.zero_mul]
    exact takes_pure ()
  | succ n ih =>
    rw [Nat.succ_mul]
    exact ih.bind fun _ => h n

/-- With fewer tokens it ends with the error. -/
theorem Takes.short (h : Takes err k m) (hs : s.rest.length < k) : (m.run s).2 = .error err := by
  rcases h s with he | ⟨a, s', _, hlen⟩
  · exact he
  · omega

end Takes

/-- Going on after each token, with one step before, is going on before each token, with one step
after. -/
theorem next_loop (err : ε) (n : ℕ) (f : ℕ → Scanner τ ε ω Unit) :
    (do next err; loop n fun i => do f i; next err : Scanner τ ε ω Unit) =
      (do loop n (fun i => do next err; f i); next err) := by
  induction n with
  | zero =>
    unfold loop
    rw [pure_bind]
    apply Scanner.ext
    rintro ⟨p, ts⟩
    cases ts with
    | nil => exact bind_error (next_nil err p)
    | cons t ts => exact bind_ok (next_cons err p t ts)
  | succ n ih =>
    unfold loop
    rw [← bind_assoc, ih]
    simp only [bind_assoc]

end Msm7x27a.Scan
