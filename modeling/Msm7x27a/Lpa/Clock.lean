import Mathlib.Data.List.Induction
import Mathlib.Data.List.Pairwise
import Msm7x27a.Lpa.Session

/-!
# The playback clock

`getNextWriteTimestamp` is to be the time spent playing: the lengths of the intervals from a
`start()` to the next `pause()`, and the time since the last `start()` if the session is playing
(`played`).  But a `start()` that resumes leaves `timeStarted` at the first start, so that `pause()`
adds the whole time since then to `timePlayed`, and `getNextWriteTimestamp` adds it once more, also
while the session is paused.  `timestamp_iff` says when the two agree all the same.
-/

namespace Msm7x27a.Lpa

open Msm7x27a.Audio

/-- The time spent playing up to `now`, of a session that plays since `since` and was then paused
and resumed in turn at the readings of the list. -/
def played (since : Int) : List Int → Int → Int
  | [], now => now - since
  | [p], _ => p - since
  | p :: r :: ts, now => (p - since) + played r ts now

/-- The session is paused and resumed in turn. -/
def alternates : Bool → List Int → List Op
  | _, [] => []
  | true, t :: ts => .pause true t :: alternates false ts
  | false, t :: ts => .start {} t :: alternates true ts

/-- No time has passed between the first start and the last resume, nor, if the session is paused,
until now. -/
def NoTime (t₀ : Int) (ts : List Int) (now : Int) : Prop :=
  (∀ t ∈ ts, t = t₀) ∧ (ts.length % 2 = 1 → now = t₀)

namespace AudioSessionOutLPA

def getNextWriteTimestamp (now : Int) (s : AudioSessionOutLPA) : Int :=
  now - s.timeStarted + s.timePlayed

/-! ### What the code adds up -/

/-- What the calls of `pause()` add to `timePlayed`. -/
def paused (t₀ : Int) : List Int → Int
  | [] => 0
  | [p] => p - t₀
  | p :: _ :: ts => (p - t₀) + paused t₀ ts

/-- A started session that is paused and resumed in turn keeps `timeStarted`. -/
theorem run_alternates {t₀ : Int} (ts : List Int) {s s' : AudioSessionOutLPA} (hs : s.timeStarted = t₀)
    (hd : s.mIsDriverStarted = true)
    (hr : Runs.run step s (alternates true ts) = some s') :
    s'.timeStarted = t₀ ∧ s'.timePlayed = s.timePlayed + paused t₀ ts := by
  induction ts using List.twoStepInduction generalizing s with
  | nil =>
    have : s = s' := by simpa [alternates, Runs.run] using hr
    subst this
    exact ⟨hs, by simp [paused]⟩
  | singleton p =>
    have : s.pause true p = s' := by simpa [alternates, Runs.run, step] using hr
    subst this
    exact ⟨hs, by simp [pause, paused, hs]⟩
  | cons_cons p r ts ih _ =>
    obtain ⟨s₁, h₁, hr₁⟩ := Runs.run_cons.1 hr
    obtain ⟨s₂, h₂, hr₂⟩ := Runs.run_cons.1 hr₁
    obtain rfl : s.pause true p = s₁ := by simpa [step] using h₁
    have hresume : (s.pause true p).mPaused ∧ (s.pause true p).mIsDriverStarted := ⟨rfl, hd⟩
    -- the session resumes, and `timeStarted` stays
    have hstart : ({ s.pause true p with mPaused := false } : AudioSessionOutLPA).record
        (.audioPause false true) = s₂ := by
      simpa [step, start, if_pos hresume] using h₂
    have hs₂ : s₂.timeStarted = t₀ := hstart ▸ hs
    have hd₂ : s₂.mIsDriverStarted = true := hstart ▸ hd
    have hp₂ : s₂.timePlayed = s.timePlayed + (p - s.timeStarted) := hstart ▸ rfl
    obtain ⟨ht, hp⟩ := ih hs₂ hd₂ hr₂
    refine ⟨ht, ?_⟩
    rw [hp, hp₂, hs]
    simp only [paused]
    omega

/-- The first start. -/
theorem start_fresh (t₀ : Int) {s : AudioSessionOutLPA} (hs : s.timeStarted = 0)
    (hp : s.mPaused = false) :
    (s.start {} t₀).2.timeStarted = t₀ ∧ (s.start {} t₀).2.timePlayed = s.timePlayed ∧
      (s.start {} t₀).2.mIsDriverStarted = true := by
  unfold start startDriver record
  simp only [hp]
  split_ifs <;> simp_all

/-! ### How far it is off -/

/-- What `getNextWriteTimestamp` is ahead of the time played, of a session that plays since
`since`: never less than nothing, and nothing only if no time has passed. -/
theorem ahead_iff {t₀ : Int} (ts : List Int) (since now : Int) (hs : t₀ ≤ since)
    (hsorted : (since :: ts ++ [now]).Pairwise (· ≤ ·)) :
    0 ≤ now - t₀ + paused t₀ ts - played since ts now ∧
      (now - t₀ + paused t₀ ts = played since ts now ↔ since = t₀ ∧ NoTime t₀ ts now) := by
  induction ts using List.twoStepInduction generalizing since with
  | nil =>
    simp only [paused, played, NoTime]
    constructor
    · omega
    · constructor
      · intro h
        exact ⟨by omega, by simp, by simp⟩
      · rintro ⟨rfl, -⟩
        omega
  | singleton p =>
    simp only [List.cons_append, List.nil_append, List.pairwise_cons, List.mem_cons, List.not_mem_nil,
      or_false, forall_eq_or_imp, forall_eq] at hsorted
    obtain ⟨⟨h1, h2⟩, h3, -⟩ := hsorted
    simp only [paused, played, NoTime, List.mem_singleton, forall_eq, List.length_singleton]
    constructor
    · omega
    · constructor
      · intro h
        exact ⟨by omega, by omega, fun _ => by omega⟩
      · rintro ⟨rfl, rfl, h⟩
        have := h (by simp)
        omega
  | cons_cons p r ts ih _ =>
    have hsp : since ≤ p := List.rel_of_pairwise_cons hsorted (by simp)
    have hpr : p ≤ r := List.rel_of_pairwise_cons (List.Pairwise.of_cons hsorted) (by simp)
    have hsorted' : (r :: ts ++ [now]).Pairwise (· ≤ ·) :=
      List.Pairwise.of_cons (List.Pairwise.of_cons hsorted)
    obtain ⟨hnonneg, hiff⟩ := ih r (by omega) hsorted'
    simp only [paused, played]
    constructor
    · omega
    · constructor
      · intro h
        obtain ⟨rfl, hall, hodd⟩ := hiff.1 (by omega)
        refine ⟨by omega, ?_, fun ho => hodd (by rw [List.length_cons, List.length_cons] at ho; omega)⟩
        intro t ht
        rcases List.mem_cons.1 ht with rfl | ht
        · omega
        · rcases List.mem_cons.1 ht with rfl | ht
          · rfl
          · exact hall t ht
      · rintro ⟨rfl, hall, hodd⟩
        have hp : p = since := hall p (by simp)
        have hr : r = since := hall r (by simp)
        have hodd' : ts.length % 2 = 1 → now = since := by
          intro ho
          apply hodd
          rw [List.length_cons, List.length_cons]
          omega
        have := hiff.2 ⟨hr, fun t ht => hall t (by simp [ht]), hodd'⟩
        omega

/-- **The clock.** A session is started at `t₀` and then paused and resumed in turn, at readings
that do not decrease, with every request of the driver granted.  The timestamp at `now` is the time
spent playing if and only if no time has passed between the first start and the last resume, nor, if
the session is paused, until now. -/
theorem timestamp_iff {samplingRate channels : ℕ} {afd t₀ now : Int} {ts : List Int}
    (hsorted : (t₀ :: ts ++ [now]).Pairwise (· ≤ ·)) {s : AudioSessionOutLPA}
    (hr : Runs.run step { mSampleRate := samplingRate, mChannels := channels, afd := afd }
      (.start {} t₀ :: alternates true ts) = some s) :
    s.getNextWriteTimestamp now = played t₀ ts now ↔ NoTime t₀ ts now := by
  obtain ⟨s₁, h₁, hr₁⟩ := Runs.run_cons.1 hr
  obtain rfl := Option.some.inj h₁
  obtain ⟨hstarted, hplayed, hdriver⟩ := start_fresh t₀
    (s := { mSampleRate := samplingRate, mChannels := channels, afd := afd }) rfl rfl
  obtain ⟨ht, hp⟩ := run_alternates ts hstarted hdriver hr₁
  have hp' : s.timePlayed = paused t₀ ts := (hplayed ▸ hp).trans (Int.zero_add _)
  have hoff := (ahead_iff ts t₀ now (Int.le_refl _) hsorted).2
  unfold getNextWriteTimestamp
  rw [ht, hp']
  constructor
  · intro h
    exact (hoff.1 (by omega)).2
  · intro h
    have := hoff.2 ⟨rfl, h⟩
    omega

/-- Paused and resumed. -/
theorem timestamp_resumed :
    ∃ s, Runs.run step { mSampleRate := 44100, mChannels := 2, afd := 10 }
        (.start {} 100 :: alternates true [200, 300]) = some s ∧
      (s.getNextWriteTimestamp 400 = played 100 [200, 300] 400 ↔ NoTime 100 [200, 300] 400) :=
  ⟨_, rfl, timestamp_iff (by decide) rfl⟩

/-- Paused after 100 the session shows 200, and a hundred later 300. -/
theorem clock_runs_paused :
    ∃ s, Runs.run step { mSampleRate := 44100, mChannels := 2, afd := 10 }
        (.start {} 100 :: alternates true [200]) = some s ∧
      played 100 [200] 200 = 100 ∧ played 100 [200] 300 = 100 ∧
      s.getNextWriteTimestamp 200 = 200 ∧ s.getNextWriteTimestamp 300 = 300 :=
  Runs.exists_run (by decide +kernel)

end AudioSessionOutLPA

end Msm7x27a.Lpa
