import Msm7x27a.Policy.Listing

/-!
# Dynamic direct profiles

The lists of a profile whose first entry is 0 are filled from an open output.  A new output of a
direct profile is kept if no list is missing; the lists are cleared when a device of the profile is
disconnected.  The check of the channel masks looks at the formats, so that an output whose channel
masks alone are unknown is kept.
-/

namespace Msm7x27a.Policy

open Msm7x27a.Audio (Status noError badValue)
open Msm7x27a.Route (Devices)

namespace IOProfile

variable {c : Client} {address : ℕ} {p : IOProfile}

/-- The lists that may be dynamic. -/
def fields : List (IOProfile → List ℕ) := [mSamplingRates, mFormats, mChannelMasks]

/-- No dynamic list has been filled. -/
def Unfilled (p : IOProfile) : Prop := ∀ field ∈ fields, (field p).head? = some 0 → field p = [0]

/-- In `q`, the lists that are dynamic in `p` have an entry after the 0. -/
def Complete (p q : IOProfile) : Prop :=
  ∀ field ∈ fields, (field p).head? = some 0 → ∃ value values, field q = 0 :: value :: values

/-- In `q`, the lists that are dynamic in `p` are dynamic. -/
def StaysDynamic (p q : IOProfile) : Prop :=
  ∀ field ∈ fields, (field p).head? = some 0 → (field q).head? = some 0

/-- In `q`, the lists that are dynamic in `p` are as at the start, and the others are as in `p`. -/
def Cleared (p q : IOProfile) : Prop :=
  ∀ field ∈ fields, field q = if (field p).head? = some 0 then [0] else field p

theorem forall_fields {P : (IOProfile → List ℕ) → Prop} :
    (∀ field ∈ fields, P field) ↔ P mSamplingRates ∧ P mFormats ∧ P mChannelMasks := by
  simp [fields]

/-- What a query leaves of a list. -/
def fill (values reply : List ℕ) : List ℕ :=
  if values.head? = some 0 then values ++ reply else values

theorem query_fields (c : Client) (address : ℕ) (p : IOProfile) : (p.query c address).mSamplingRates =
      fill p.mSamplingRates ((c.samplingRates address).getD []) ∧
    (p.query c address).mFormats = fill p.mFormats ((c.formats address).getD []) ∧
    (p.query c address).mChannelMasks = fill p.mChannelMasks ((c.channelMasks address).getD []) := by
  unfold query dynamicRates dynamicFormats dynamicMasks fill
  by_cases hrates : p.mSamplingRates.head? = some 0 <;>
    by_cases hformats : p.mFormats.head? = some 0 <;>
      by_cases hmasks : p.mChannelMasks.head? = some 0 <;> simp [hrates, hformats, hmasks]

theorem head?_fill {values reply : List ℕ} : (fill values reply).head? = values.head? := by
  unfold fill
  split
  next h => rw [List.head?_append, h, Option.some_or]
  next => rfl

/-- A list that has not been filled before has an entry after the 0 if the reply has a value. -/
theorem fill_eq_iff {values reply : List ℕ} (hunfilled : values.head? = some 0 → values = [0])
    (h : values.head? = some 0) :
    (∃ value rest, fill values reply = 0 :: value :: rest) ↔ reply ≠ [] := by
  unfold fill
  rw [if_pos h, hunfilled h, List.singleton_append]
  constructor
  · rintro ⟨value, rest, e⟩ rfl
    cases e
  · intro hreply
    obtain ⟨value, rest, rfl⟩ := List.exists_cons_of_ne_nil hreply
    exact ⟨value, rest, rfl⟩

theorem length_fill_lt_iff {values : List ℕ} (reply : List ℕ) (hunfilled : values.head? = some 0 → values = [0])
    (h : values.head? = some 0) : (fill values reply).length < 2 ↔ reply = [] := by
  unfold fill
  rw [if_pos h, hunfilled h, List.length_append, List.length_singleton, ← List.length_eq_zero_iff]
  omega

/-- The lists of the replies are complete. -/
theorem complete_query (hunfilled : p.Unfilled) : Complete p (p.query c address) ↔
    (p.mSamplingRates.head? = some 0 → (c.samplingRates address).getD [] ≠ []) ∧
      (p.mFormats.head? = some 0 → (c.formats address).getD [] ≠ []) ∧
      (p.mChannelMasks.head? = some 0 → (c.channelMasks address).getD [] ≠ []) := by
  obtain ⟨hrates, hformats, hmasks⟩ := forall_fields.1 hunfilled
  obtain ⟨erates, eformats, emasks⟩ := query_fields c address p
  unfold Complete
  rw [forall_fields, erates, eformats, emasks]
  refine and_congr ?_ (and_congr ?_ ?_)
  · exact forall_congr' fun h => fill_eq_iff hrates h
  · exact forall_congr' fun h => fill_eq_iff hformats h
  · exact forall_congr' fun h => fill_eq_iff hmasks h

theorem staysDynamic_query : StaysDynamic p (p.query c address) := by
  obtain ⟨erates, eformats, emasks⟩ := query_fields c address p
  unfold StaysDynamic
  rw [forall_fields, erates, eformats, emasks, head?_fill, head?_fill, head?_fill]
  exact ⟨id, id, id⟩

/-- What makes the code close the output. -/
theorem missingParam_query (hunfilled : p.Unfilled) : (p.query c address).missingParam = true ↔
    p.mSamplingRates.head? = some 0 ∧ (c.samplingRates address).getD [] = [] ∨
      p.mFormats.head? = some 0 ∧ ((c.formats address).getD [] = [] ∨
        (fill p.mChannelMasks ((c.channelMasks address).getD [])).length < 2) := by
  obtain ⟨hrates, hformats, -⟩ := forall_fields.1 hunfilled
  obtain ⟨erates, eformats, emasks⟩ := query_fields c address p
  have hr := length_fill_lt_iff ((c.samplingRates address).getD []) hrates
  have hf := length_fill_lt_iff ((c.formats address).getD []) hformats
  unfold missingParam dynamicRates dynamicFormats
  rw [erates, eformats, emasks, head?_fill, head?_fill]
  simp only [Bool.or_eq_true, Bool.and_eq_true, decide_eq_true_eq]
  constructor
  · rintro ((⟨h, hlt⟩ | ⟨h, hlt⟩) | ⟨h, hlt⟩)
    · exact .inl ⟨h, (hr h).1 hlt⟩
    · exact .inr ⟨h, .inl ((hf h).1 hlt)⟩
    · exact .inr ⟨h, .inr hlt⟩
  · rintro (⟨h, hreply⟩ | ⟨h, hreply | hlt⟩)
    · exact .inl (.inl ⟨h, (hr h).2 hreply⟩)
    · exact .inl (.inr ⟨h, (hf h).2 hreply⟩)
    · exact .inr ⟨h, hlt⟩

/-- The channel masks are not dynamic, or a mask is known, or the output is closed for another
list. -/
def MasksKnown (c : Client) (address : ℕ) (p : IOProfile) : Prop :=
  p.mChannelMasks.head? = some 0 → (c.channelMasks address).getD [] ≠ [] ∨
    p.mFormats.head? = some 0 ∨
    p.mSamplingRates.head? = some 0 ∧ (c.samplingRates address).getD [] = []

/-- **The test.** It lets no incomplete profile through exactly if the channel masks are known. -/
theorem missingParam_iff (hunfilled : p.Unfilled) :
    ((p.query c address).missingParam = false → Complete p (p.query c address)) ↔
      MasksKnown c address p := by
  have hmasks := (forall_fields.1 hunfilled).2.2
  rw [← Bool.not_eq_true, missingParam_query hunfilled, complete_query hunfilled]
  unfold MasksKnown
  constructor
  · intro h hdynamic
    by_contra hunknown
    push Not at hunknown
    obtain ⟨hreply, hformats, hrates⟩ := hunknown
    refine (h ?_).2.2 hdynamic hreply
    rintro (⟨h1, h2⟩ | ⟨h1, -⟩)
    · exact hrates h1 h2
    · exact hformats h1
  · intro hknown htest
    push Not at htest
    obtain ⟨hrates, hformats⟩ := htest
    refine ⟨hrates, fun h => (hformats h).1, fun h => ?_⟩
    rcases hknown h with hreply | hdynamic | ⟨h1, h2⟩
    · exact hreply
    · intro hreply
      have hlt := (length_fill_lt_iff _ hmasks h).2 hreply
      exact absurd hlt (not_lt.2 (hformats hdynamic).2)
    · exact absurd h2 (hrates h1)

/-! ### Clearing -/

theorem cleared_clearDynamic (p : IOProfile) : Cleared p p.clearDynamic := by
  unfold Cleared clearDynamic dynamicRates dynamicFormats dynamicMasks
  rw [forall_fields]
  by_cases hrates : p.mSamplingRates.head? = some 0 <;>
    by_cases hformats : p.mFormats.head? = some 0 <;>
      by_cases hmasks : p.mChannelMasks.head? = some 0 <;> simp [hrates, hformats, hmasks]

theorem clearDynamic_clearDynamic (p : IOProfile) :
    p.clearDynamic.clearDynamic = p.clearDynamic := by
  unfold clearDynamic dynamicRates dynamicFormats dynamicMasks
  by_cases hrates : p.mSamplingRates.head? = some 0 <;>
    by_cases hformats : p.mFormats.head? = some 0 <;>
      by_cases hmasks : p.mChannelMasks.head? = some 0 <;> simp [hrates, hformats, hmasks]

end IOProfile

namespace State

variable {R : Type} {c : Client} {device : Devices} {s : State R} {outputs : SortedVector ℕ}
  {o output p q : ℕ} {ps : List ℕ} {profile : ℕ → IOProfile}

/-- A profile is cleared or not. -/
theorem foldl_clearDirect (ps : List ℕ) (profile : ℕ → IOProfile) :
    ps.foldl (clearDirect device) profile p = profile p ∨
      ps.foldl (clearDirect device) profile p = (profile p).clearDynamic := by
  induction ps generalizing profile with
  | nil => exact .inl rfl
  | cons q ps ih =>
    have hstep : clearDirect device profile q p = profile p ∨
        clearDirect device profile q p = (profile p).clearDynamic := by
      unfold clearDirect
      split
      · by_cases hq : p = q
        · rw [hq, Function.update_self]
          exact .inr rfl
        · rw [Function.update_of_ne hq]
          exact .inl rfl
      · exact .inl rfl
    rw [List.foldl_cons]
    rcases hstep with h | h
    · rw [← h]
      exact ih _
    · rcases ih (clearDirect device profile q) with e | e
      · exact .inr (e.trans h)
      · rw [e, h, IOProfile.clearDynamic_clearDynamic]
        exact .inr rfl

/-- A direct profile of the device is cleared. -/
theorem foldl_clearDirect_of_mem (hp : p ∈ ps)
    (hdevice : (profile p).mSupportedDevices.has device = true)
    (hdirect : (profile p).mFlags.DIRECT = true) :
    ps.foldl (clearDirect device) profile p = (profile p).clearDynamic := by
  induction ps generalizing profile with
  | nil => cases hp
  | cons q ps ih =>
    rw [List.foldl_cons]
    by_cases hq : p = q
    · have hself : clearDirect device profile q p = (profile p).clearDynamic := by
        rw [← hq]
        unfold clearDirect
        rw [if_pos ⟨hdevice, hdirect⟩, Function.update_self]
      rcases foldl_clearDirect ps (clearDirect device profile q) with e | e
      · exact e.trans hself
      · rw [e, hself, IOProfile.clearDynamic_clearDynamic]
    · have hother : clearDirect device profile q p = profile p := by
        unfold clearDirect
        split
        · exact Function.update_of_ne hq ..
        · rfl
      rw [← hother] at hdevice hdirect ⊢
      exact ih ((List.mem_cons.1 hp).resolve_left hq) hdevice hdirect

/-! ### The turn of one profile -/

theorem profile_openProfile_of_ne (h : p ≠ q) : (s.openProfile c q).1.profile p = s.profile p := by
  rcases profile_openProfile c q s with e | e
  · rw [e]
  · rw [e, Function.update_of_ne h]

theorem origins_openProfile_of_ne (h : p ≠ q) :
    (s.openProfile c q).1.origins o = some (.profile p) ↔ s.origins o = some (.profile p) := by
  rcases openProfile_cases c q s with ⟨-, hsame⟩ | ⟨output, -, hopened⟩
  · rw [hsame.origins]
  · rw [hopened.origins]
    simp [h]

theorem isOpen_openProfile_of_ne (h : p ≠ q) : (s.openProfile c q).1.isOpen p = s.isOpen p := by
  rw [Bool.eq_iff_iff, isOpen_iff, isOpen_iff]
  simp only [origins_openProfile_of_ne h]

/-- The output that is opened for a profile is opened for no other. -/
theorem eq_of_openOutput (h : .openOutput p o ∈ s.openCalls c q) : p = q := by
  unfold openCalls at h
  dsimp only at h
  split at h
  · cases h
  · split at h
    · split at h
      · simp at h
        exact h.1
      · simp at h
        exact h.1
    · split at h
      · simp at h
        exact h.1
      · simp at h
        exact h.1

theorem state_openProfiles (c : Client) (ps : List ℕ) (outputs : SortedVector ℕ)
    (h : s.isOpen q = false) : ∃ outputs', (openProfiles c (q :: ps) s outputs).1 =
      (openProfiles c ps (s.openProfile c q).1 outputs').1 := by
  cases hopened : (s.openProfile c q).2 with
  | none => exact ⟨outputs, by rw [openProfiles_none h hopened]⟩
  | some output => exact ⟨outputs.add output, by rw [openProfiles_some h hopened]⟩

/-- What the loop does to a profile is what its own turn does, from a state in which the profile is
as at the start. -/
structure OwnTurn (c : Client) (p : ℕ) (s s' : State R) (calls : List ClientCall) : Prop where
  profile : s'.profile p = (s.openProfile c p).1.profile p
  origins : ∀ o, s'.origins o = some (.profile p) ↔
    (s.openProfile c p).1.origins o = some (.profile p)
  opens : ∀ o, .openOutput p o ∈ calls ↔ .openOutput p o ∈ s.openCalls c p
  calls : ∀ call ∈ s.openCalls c p, call ∈ calls

/-- The loop does nothing to a profile that is not in the vector. -/
theorem untouched_openProfiles (c : Client) (s : State R) (outputs : SortedVector ℕ) (hp : p ∉ ps) :
    (openProfiles c ps s outputs).1.profile p = s.profile p ∧
      (∀ o, (openProfiles c ps s outputs).1.origins o = some (.profile p) ↔
        s.origins o = some (.profile p)) ∧
      ∀ o, .openOutput p o ∉ openProfilesCalls c ps s := by
  induction ps generalizing s outputs with
  | nil => exact ⟨rfl, fun _ => Iff.rfl, fun _ => List.not_mem_nil⟩
  | cons q ps ih =>
    obtain ⟨hne, hps⟩ := not_or.1 (mt List.mem_cons.2 hp)
    cases hopen : s.isOpen q with
    | true =>
      rw [openProfiles_open hopen, openProfilesCalls_open hopen]
      exact ih s outputs hps
    | false =>
      obtain ⟨outputs', e⟩ := state_openProfiles c ps outputs hopen
      obtain ⟨hprofile, horigins, hcalls⟩ := ih (s.openProfile c q).1 outputs' hps
      rw [e, openProfilesCalls_closed hopen]
      refine ⟨hprofile.trans (profile_openProfile_of_ne hne), fun o => ?_, fun o hmem => ?_⟩
      · exact (horigins o).trans (origins_openProfile_of_ne hne)
      · rcases List.mem_append.1 hmem with h | h
        · exact hne (eq_of_openOutput h)
        · exact hcalls o h

/-- **The turn of a profile** in the loop. -/
theorem ownTurn_openProfiles (hnodup : ps.Nodup) (hp : p ∈ ps) (hclosed : s.isOpen p = false) :
    ∃ s₁ : State R, s₁.profile p = s.profile p ∧ s₁.isOpen p = false ∧
      OwnTurn c p s₁ (openProfiles c ps s outputs).1 (openProfilesCalls c ps s) := by
  induction ps generalizing s outputs with
  | nil => cases hp
  | cons q ps ih =>
    obtain ⟨hq, hnodup⟩ := List.nodup_cons.1 hnodup
    by_cases hpq : p = q
    · rw [← hpq] at hq ⊢
      obtain ⟨outputs', e⟩ := state_openProfiles c ps outputs hclosed
      obtain ⟨hprofile, horigins, hcalls⟩ :=
        untouched_openProfiles c (s.openProfile c p).1 outputs' hq
      rw [e, openProfilesCalls_closed hclosed]
      refine ⟨s, rfl, hclosed, hprofile, horigins, fun o => ?_, fun call => List.mem_append_left _⟩
      rw [List.mem_append]
      exact or_iff_left (hcalls o)
    · have hps := (List.mem_cons.1 hp).resolve_left hpq
      cases hopen : s.isOpen q with
      | true =>
        rw [openProfiles_open hopen, openProfilesCalls_open hopen]
        exact ih hnodup hps hclosed
      | false =>
        obtain ⟨outputs', e⟩ := state_openProfiles c ps outputs hopen
        obtain ⟨s₁, hprofile, hclosed₁, hturn⟩ :=
          @ih (s.openProfile c q).1 outputs' hnodup hps ((isOpen_openProfile_of_ne hpq).trans hclosed)
        rw [e, openProfilesCalls_closed hopen]
        refine ⟨s₁, hprofile.trans (profile_openProfile_of_ne hpq), hclosed₁, hturn.profile,
          hturn.origins, fun o => ?_, fun call hcall => List.mem_append_right _ (hturn.calls call hcall)⟩
        rw [List.mem_append, ← hturn.opens o]
        exact or_iff_right fun h => hpq (eq_of_openOutput h)

/-! ### A direct profile -/

/-- A direct profile whose output is opened when the device is connected. -/
structure Opens (c : Client) (device : Devices) (p : ℕ) (s : State R) : Prop where
  loaded : p ∈ s.loadedProfiles
  supported : (s.profile p).mSupportedDevices.has device = true
  direct : (s.profile p).mFlags.DIRECT = true
  demand : (s.profile p).mFlags.onDemand = false
  unfilled : (s.profile p).Unfilled
  closed : s.isOpen p = false
  opens : c.opens (.output p) = true

theorem openProfile_direct (hdirect : (s.profile p).mFlags.DIRECT = true)
    (hdemand : (s.profile p).mFlags.onDemand = false) (hopens : c.opens (.output p) = true) :
    (s.openProfile c p).1.profile p = (s.profile p).query c p ∧
      (((s.profile p).query c p).missingParam = true ∧
        (s.openProfile c p).1.origins = s.origins ∧
        s.openCalls c p = [.openOutput p (c.handle (.output p) s.mOutputs.keys),
          .closeOutput (c.handle (.output p) s.mOutputs.keys)] ∨
      ((s.profile p).query c p).missingParam = false ∧
        (s.openProfile c p).1.origins (c.handle (.output p) s.mOutputs.keys) = some (.profile p) ∧
        s.openCalls c p = [.openOutput p (c.handle (.output p) s.mOutputs.keys)]) := by
  have hflags : ¬((s.profile p).mFlags.onDemand = true ∨ c.opens (.output p) = false) := by
    rw [hdemand, hopens]
    decide
  unfold openProfile openCalls
  dsimp only
  rw [if_neg hflags, if_neg hflags, if_pos hdirect, if_pos hdirect]
  simp only [Function.update_self]
  cases hmissing : ((s.profile p).query c p).missingParam with
  | true => exact ⟨Function.update_self .., .inl ⟨rfl, rfl, rfl⟩⟩
  | false => exact ⟨Function.update_self .., .inr ⟨rfl, origins_addOutput.trans (if_pos rfl), rfl⟩⟩

/-- One output is opened for the profile.  If it is kept, the dynamic lists are complete; if not, it
is closed. -/
structure Settled (p : ℕ) (s : State R) (l : ProfileLoop R) : Prop where
  output : ∃ output, (∀ o, .openOutput p o ∈ l.calls ↔ o = output) ∧
    (l.state.origins output = some (.profile p) →
      IOProfile.Complete (s.profile p) (l.state.profile p)) ∧
    (l.state.origins output ≠ some (.profile p) → .closeOutput output ∈ l.calls)
  dynamic : IOProfile.StaysDynamic (s.profile p) (l.state.profile p)

/-- The lists of the profile are cleared when a device of the profile is disconnected. -/
def Clears (R : Type) (p : ℕ) : Prop :=
  ∀ (c : Client) (device : Devices) (s : State R), p ∈ s.loadedProfiles →
    (s.profile p).mSupportedDevices.has device = true → (s.profile p).mFlags.DIRECT = true →
      IOProfile.Cleared (s.profile p)
        ((s.checkOutputsForDevice c device .unavailable).2.1.profile p)

/-- The profile is complete if its output is kept, and cleared with its devices. -/
def CompletesProfile (c : Client) (device : Devices) (p : ℕ) (s : State R) : Prop :=
  (∃ status, ∃ l : ProfileLoop R,
    (∀ fuel, (s.profilesFor device).size < fuel → s.connectLoop c device fuel = some (status, l)) ∧
    Settled p s l) ∧ Clears R p

theorem clears (R : Type) (p : ℕ) : Clears R p := by
  intro c device s hp hdevice hdirect
  have h : (s.checkOutputsForDevice c device .unavailable).2.1.profile p =
      (s.profile p).clearDynamic := foldl_clearDirect_of_mem hp hdevice hdirect
  rw [h]
  exact IOProfile.cleared_clearDynamic _

/-- The turn of a direct profile when its device is connected. -/
theorem Opens.turn (h : Opens c device p s) : ∃ s₁ : State R, s₁.profile p = s.profile p ∧
    s₁.isOpen p = false ∧
      OwnTurn c p s₁ (s.connectOutputs c device).2.1 (s.connectCalls c device) := by
  have hp : p ∈ (s.profilesFor device).toList := mem_profilesFor.2 ⟨h.loaded, h.supported⟩
  unfold connectOutputs connectCalls
  dsimp only
  rw [if_neg fun hnone => List.ne_nil_of_mem hp hnone.1]
  exact ownTurn_openProfiles (s.profilesFor device).nodup hp h.closed

/-- The test decides whether the output is kept. -/
theorem settled_iff (h : Opens c device p s) {l : ProfileLoop R}
    (hstate : l.state = (s.connectOutputs c device).2.1) (hcalls : l.calls = s.connectCalls c device) :
    Settled p s l ↔ (((s.profile p).query c p).missingParam = false →
      IOProfile.Complete (s.profile p) ((s.profile p).query c p)) := by
  obtain ⟨s₁, hsame, hclosed, hturn⟩ := h.turn
  rw [← hstate, ← hcalls] at hturn
  obtain ⟨hprofile, hcases⟩ := openProfile_direct (c := c) (s := s₁) (p := p) (by rw [hsame]; exact h.direct)
    (by rw [hsame]; exact h.demand) h.opens
  have hquery : l.state.profile p = (s.profile p).query c p := by
    rw [hturn.profile, hprofile, hsame]
  have hdynamic : IOProfile.StaysDynamic (s.profile p) (l.state.profile p) := by
    rw [hquery]
    exact IOProfile.staysDynamic_query
  rw [hsame] at hcases
  generalize c.handle (.output p) s₁.mOutputs.keys = output at hcases
  rcases hcases with ⟨hmissing, horigins, e⟩ | ⟨hkept, horigins, e⟩
  · -- the output is closed
    have hopens : ∀ o, .openOutput p o ∈ l.calls ↔ o = output := by
      intro o
      rw [hturn.opens, e]
      simp
    have hgone : l.state.origins output ≠ some (.profile p) := by
      rw [Ne, hturn.origins, horigins]
      exact fun ho => Bool.eq_false_iff.1 hclosed (isOpen_iff.2 ⟨output, ho⟩)
    have hclose : .closeOutput output ∈ l.calls := hturn.calls _ (by rw [e]; simp)
    rw [hmissing]
    refine iff_of_true ⟨⟨output, hopens, fun ho => absurd ho hgone, fun _ => hclose⟩, hdynamic⟩ ?_
    exact fun hfalse => absurd hfalse (by decide)
  · -- the output is kept
    have hopens : ∀ o, .openOutput p o ∈ l.calls ↔ o = output := by
      intro o
      rw [hturn.opens, e]
      simp
    have hstays : l.state.origins output = some (.profile p) := (hturn.origins output).2 horigins
    constructor
    · rintro ⟨⟨output', hopens', hcomplete, -⟩, -⟩ -
      obtain rfl : output = output' := (hopens' output).1 ((hopens output).2 rfl)
      rw [← hquery]
      exact hcomplete hstays
    · intro hcomplete
      refine ⟨⟨output, hopens, fun _ => ?_, fun hne => absurd hstays hne⟩, hdynamic⟩
      rw [hquery]
      exact hcomplete hkept

theorem completesProfile_iff (h : Opens c device p s) : s.CompletesProfile c device p ↔
    (((s.profile p).query c p).missingParam = false →
      IOProfile.Complete (s.profile p) ((s.profile p).query c p)) := by
  obtain ⟨l, hl, hstate, -, hcalls⟩ := connectLoop_eq c device s
  rw [← settled_iff h hstate hcalls]
  constructor
  · rintro ⟨⟨status, l', hl', hsettled⟩, -⟩
    have hsame := (hl _ (Nat.lt_succ_self _)).symm.trans (hl' _ (Nat.lt_succ_self _))
    obtain ⟨-, rfl⟩ := Prod.mk.inj (Option.some.inj hsame)
    exact hsettled
  · exact fun hsettled => ⟨⟨_, l, hl, hsettled⟩, clears R p⟩

/-- **Dynamic direct profiles.** A profile is complete when its output is kept exactly if its channel
masks are known, or are not asked for, or another list is missing. -/
theorem completes_iff (h : Opens c device p s) :
    s.CompletesProfile c device p ↔ (s.profile p).MasksKnown c p :=
  (completesProfile_iff h).trans (IOProfile.missingParam_iff h.unfilled)

/-- The plain policy with a direct profile for HDMI, whose channel masks are read from the display. -/
def plainHdmi : State Unit :=
  { plainDirect { DIRECT := true } with
    profile p := if p = 0 then { mSupportedDevices := 0x8047f } else
      { mSupportedDevices := 0x400, mFlags := { DIRECT := true }, mSamplingRates := [48000],
        mFormats := [1], mChannelMasks := [0] } }

theorem opens_plainHdmi {c : Client} (hopens : c.opens (.output 1) = true) :
    Opens c 0x400 1 plainHdmi where
  loaded := by decide
  supported := by decide
  direct := rfl
  demand := rfl
  unfilled := IOProfile.forall_fields.2 ⟨by decide, by decide, by decide⟩
  closed := by decide
  opens := hopens

/-- A display that answers with a channel mask. -/
theorem completes_hdmi : plainHdmi.CompletesProfile
    { Client.plain with channelMasks := fun _ => some [3] } 0x400 1 := by
  refine (completes_iff (opens_plainHdmi rfl)).2 ?_
  exact fun _ => .inl (by decide)

/-- A display without an answer: the output is kept, and no channel mask is known. -/
theorem keeps_without_masks : ¬plainHdmi.CompletesProfile .plain 0x400 1 := by
  intro h
  have hcomplete := (completesProfile_iff (opens_plainHdmi rfl)).1 h (by decide)
  obtain ⟨-, -, hmasks⟩ := IOProfile.forall_fields.1 hcomplete
  obtain ⟨value, values, e⟩ := hmasks rfl
  have hquery : ((plainHdmi.profile 1).query .plain 1).mChannelMasks = [0] := by decide
  rw [hquery] at e
  cases e

end State

end Msm7x27a.Policy
