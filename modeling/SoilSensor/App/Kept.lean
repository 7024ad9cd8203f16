import SoilSensor.Common.Fairness
import SoilSensor.App.Course
import SoilSensor.App.Turn
/-!
# A hold that is kept

What becomes of a hold while the button stays down. A course that is
neither at its end nor given up has a cue waiting or its timer running
(`Course.held_live`), and each of the two takes it further
(`Course.held_further`). So a hold that is kept gains its reset, if its
timer and its cues come at all (`Hold.Attended.gains`).
-/

namespace SoilSensor

/-! ## The cues of a hold -/

/-- The event is a cue. -/
def AppEvent.isCue (event : AppEvent) : Bool := event.cue.isSome

theorem Hold.waits_iff {h : Hold} {r : ℕ} :
    h.Waits AppEvent.isCue ↔ (Course.ofHold r h).waiting ≠ [] := by
  have hnil : (Course.ofHold r h).waiting = [] ↔ ∀ e ∈ h.pending, e.cue = none :=
    List.filterMap_eq_nil_iff
  rw [ne_eq, hnil]
  constructor
  · rintro ⟨e, he, hcue⟩ hall
    rw [AppEvent.isCue, hall e he] at hcue
    cases hcue
  · intro hnot
    by_contra hnone
    refine hnot fun e he => Option.not_isSome_iff_eq_none.1 fun hcue => hnone ⟨e, he, hcue⟩

/-- A cue dispatched is the next of the course. -/
theorem next_of_dispatches {s : AppState} {a : AppTask.Step} {event : AppEvent}
    (h : s.Dispatches a event) (hcue : event.isCue = true) :
    Course.actOf (Hold.ofApp s) (Hold.actOf s a) = some .next := by
  obtain ⟨rfl, htaken⟩ := h
  obtain ⟨cue, hcue'⟩ := Option.isSome_iff_exists.1 hcue
  simp [Course.actOf, Hold.actOf, Hold.pending_of_taken htaken, hcue']

/-! ## The end of the hold -/

namespace Course

variable {c c' : Course} {b : Act}

/-- How far a held course has come. -/
def stage (p : ℕ × Course) : ℕ := held.idxOf p

/-- **A held course goes on**: before its second expiry its timer runs or a
cue waits. -/
theorem held_live : ∀ p ∈ held, p.1 < 2 → p.2.running = true ∨ p.2.waiting ≠ [] := by decide

/-- An expiry or a cue handled takes it further. -/
theorem held_further : ∀ p ∈ held,
    (∀ c' ∈ p.2.step .expire, stage p < stage (p.1 + 1, c')) ∧
      ∀ c' ∈ p.2.step .next, stage p < stage (p.1, c') := by
  decide

/-- **The reset is on its way**: the second expiry is the next cue of an
open window. -/
def Due (c : Course) : Prop :=
  c.mFunction = .factoryReset ∧ c.active = true ∧ c.waiting.head? = some .timer

instance : Decidable c.Due := inferInstanceAs (Decidable (_ ∧ _))

/-- After two expiries it is on its way, or was gained. -/
theorem held_due : ∀ p ∈ held, 2 ≤ p.1 → p.2.Due ∨ 0 < p.2.gained := by decide

/-- **Nothing holds it up**: no edge and no expiry gets ahead of the cue,
and the cue handled gains it. -/
theorem Due.step (hc : c.Due) (h : c.step b = some c') :
    c'.Due ∧ b ≠ .next ∨ 0 < c'.gained := by
  obtain ⟨hfun, hactive, hhead⟩ := hc
  obtain ⟨rest, hrest⟩ := List.head?_eq_some_iff.1 hhead
  cases b with
  | edge pressed =>
    obtain rfl := Option.some.inj h
    exact .inl ⟨⟨hfun, hactive, by simp [hrest]⟩, fun hb => by cases hb⟩
  | expire =>
    simp only [Course.step] at h
    split_ifs at h
    obtain rfl := Option.some.inj h
    exact .inl ⟨⟨hfun, hactive, by simp [hrest]⟩, fun hb => by cases hb⟩
  | next =>
    simp only [Course.step, hrest] at h
    obtain rfl := Option.some.inj h
    exact .inr (by simp [handle, hfun, hactive])

/-- **No step takes a kept hold back**, and each expiry and each cue handled
takes it further. -/
theorem Held.further {h h' : Hold} {a : Hold.Act} {r n : ℕ} (hh : Held r n h)
    (hdown : h.held = true) (hlost : a.lost = false) (hno : actOf h a ≠ some (.edge false))
    (hs : Hold.step h a = some h') :
    h'.held = true ∧ stage (n, ofHold r h) ≤ stage (n + a.isExpiry.toNat, ofHold r h') ∧
      (actOf h a = some .expire ∨ actOf h a = some .next →
        stage (n, ofHold r h) < stage (n + a.isExpiry.toNat, ofHold r h')) := by
  obtain ⟨hr, hc⟩ := hh
  obtain ⟨hbutton, hedge, hcourse⟩ := ofHold_step hr hlost hs
  have hexp : a.isExpiry = decide (actOf h a = some .expire) := by
    rw [Bool.eq_iff_iff, decide_eq_true_iff, actOf_expire]
  rw [if_pos hdown] at hc
  rw [hbutton, hexp]
  cases hact : actOf h a with
  | none =>
    rw [hact] at hcourse
    rw [hcourse]
    exact ⟨hdown, Nat.le_refl _, fun hor => by simp at hor⟩
  | some b =>
    rw [hact] at hcourse
    cases b with
    | edge pressed =>
      cases pressed with
      | false => exact absurd hact hno
      | true => exact absurd hdown.symm (hedge true hact)
    | expire =>
      have hlt := (held_further _ hc).1 _ hcourse
      exact ⟨hdown, Nat.le_of_lt hlt, fun _ => hlt⟩
    | next =>
      have hlt := (held_further _ hc).2 _ hcourse
      exact ⟨hdown, Nat.le_of_lt hlt, fun _ => hlt⟩

end Course

namespace Hold

variable {hs : ℕ → Hold} {acts : ℕ → Act} {r n : ℕ}

/-- The expiries before the `n`th step. -/
def expiries (acts : ℕ → Act) (n : ℕ) : ℕ := (List.range n).countP fun k => (acts k).isExpiry

theorem expiries_succ : expiries acts (n + 1) = expiries acts n + (acts n).isExpiry.toNat := by
  rw [expiries, List.range_succ, List.countP_append, List.countP_singleton]
  cases h : (acts n).isExpiry <;> simp [expiries]

/-- **A hold that is attended to**: nothing posted is lost, a cue that waits
is handled, and a timer that runs expires, unless a cue stops it. -/
structure Attended (hs : ℕ → Hold) (acts : ℕ → Act) : Prop where
  step : ∀ n, Hold.step (hs n) (acts n) = some (hs (n + 1))
  kept : ∀ n, (acts n).lost = false
  cue : ∀ n, (hs n).Waits AppEvent.isCue → ∃ m, n ≤ m ∧ Course.actOf (hs m) (acts m) = some .next
  timer : ∀ n, (hs n).timer.Armed → ∃ m, n ≤ m ∧
    (Course.actOf (hs m) (acts m) = some .expire ∨ Course.actOf (hs m) (acts m) = some .next)

/-- A reset on its way is gained. -/
theorem Attended.gains_of_due (hv : Attended hs acts) (hr : ∀ k, r ≤ (hs k).resets)
    (hdue : (Course.ofHold r (hs n)).Due) : ∃ k, r < (hs k).resets := by
  by_contra hnever
  have hnone : ∀ k, ¬ 0 < (Course.ofHold r (hs k)).gained := fun k hk => by
    have hgained : (Course.ofHold r (hs k)).gained = (hs k).resets - r := rfl
    exact hnever ⟨k, by omega⟩
  have hstep : ∀ k, (Course.ofHold r (hs k)).Due → (Course.ofHold r (hs (k + 1))).Due ∧
      Course.actOf (hs k) (acts k) ≠ some .next := by
    intro k hk
    obtain ⟨-, -, hcourse⟩ := Course.ofHold_step (hr k) (hv.kept k) (hv.step k)
    cases hact : Course.actOf (hs k) (acts k) with
    | none =>
      rw [hact] at hcourse
      exact ⟨hcourse ▸ hk, fun h => by cases h⟩
    | some b =>
      rw [hact] at hcourse
      rcases hk.step hcourse with ⟨hk', hb⟩ | hgain
      · exact ⟨hk', fun h => hb (Option.some.inj h)⟩
      · exact absurd hgain (hnone (k + 1))
  have hall : ∀ d, (Course.ofHold r (hs (n + d))).Due := by
    intro d
    induction d with
    | zero => exact hdue
    | succ d ih => exact (hstep _ ih).1
  have hcued : (hs n).Waits AppEvent.isCue := by
    rw [waits_iff (r := r)]
    intro hnil
    have hhead := hdue.2.2
    rw [hnil] at hhead
    cases hhead
  obtain ⟨m, hm, hnext⟩ := hv.cue n hcued
  obtain ⟨d, rfl⟩ := Nat.exists_eq_add_of_le hm
  exact (hstep _ (hall d)).2 hnext

/-- **A hold attended to and kept sees its second expiry.** -/
theorem Attended.expires (hv : Attended hs acts) (h0 : Course.Held r 0 (hs 0))
    (hpress : ∃ n, Course.actOf (hs n) (acts n) = some (.edge true))
    (hrelease : ∀ n, Course.actOf (hs n) (acts n) = some (.edge false) → 2 ≤ expiries acts n) :
    ∃ n, Course.Held r (expiries acts n) (hs n) ∧ 2 ≤ expiries acts n := by
  by_contra hfew
  have hlt : ∀ n, Course.Held r (expiries acts n) (hs n) → expiries acts n < 2 :=
    fun n hn => Nat.lt_of_not_le fun htwo => hfew ⟨n, hn, htwo⟩
  -- the button is never let go, and the hold is kept
  have hstay : ∀ n, Course.Held r (expiries acts n) (hs n) := by
    intro n
    induction n with
    | zero => exact h0
    | succ n ih =>
      rw [expiries_succ]
      refine ih.step (hv.kept n) (fun hact => ?_) (hv.step n)
      exact absurd (hrelease n hact) (Nat.not_le_of_lt (hlt n ih))
  have hno : ∀ n, Course.actOf (hs n) (acts n) ≠ some (.edge false) :=
    fun n hact => absurd (hrelease n hact) (Nat.not_le_of_lt (hlt n (hstay n)))
  have hnext : ∀ n, (hs n).held = true → _ := fun n hdown =>
    (hstay n).further hdown (hv.kept n) (hno n) (hv.step n)
  obtain ⟨n₀, hn₀⟩ := hpress
  have hdown : ∀ d, (hs (n₀ + 1 + d)).held = true := by
    intro d
    induction d with
    | zero =>
      obtain ⟨hbutton, -, -⟩ := Course.ofHold_step (hstay n₀).1 (hv.kept n₀) (hv.step n₀)
      rw [hn₀] at hbutton
      exact hbutton
    | succ d ih => exact (hnext _ ih).1
  -- its stage rises for ever, and there are no more than six
  let stage : ℕ → ℕ := fun d =>
    Course.stage (expiries acts (n₀ + 1 + d), Course.ofHold r (hs (n₀ + 1 + d)))
  have hmono : ∀ d, stage d ≤ stage (d + 1) := by
    intro d
    have hle := (hnext _ (hdown d)).2.1
    rw [← expiries_succ] at hle
    exact hle
  have hrise : ∀ d, ∃ e, d ≤ e ∧ stage e < stage (e + 1) := by
    intro d
    have hmem := (hstay (n₀ + 1 + d)).2
    rw [if_pos (hdown d)] at hmem
    have hcomes : ∃ m, n₀ + 1 + d ≤ m ∧ (Course.actOf (hs m) (acts m) = some .expire ∨
        Course.actOf (hs m) (acts m) = some .next) := by
      rcases Course.held_live _ hmem (hlt _ (hstay _)) with hrunning | hwaiting
      · exact hv.timer _ (of_decide_eq_true hrunning)
      · obtain ⟨m, hm, hact⟩ := hv.cue _ (waits_iff.2 hwaiting)
        exact ⟨m, hm, .inr hact⟩
    obtain ⟨m, hm, hact⟩ := hcomes
    obtain ⟨e, rfl⟩ := Nat.exists_eq_add_of_le hm
    have hlt' := (hnext _ (hdown (d + e))).2.2 (by rw [← Nat.add_assoc]; exact hact)
    rw [← expiries_succ] at hlt'
    exact ⟨d + e, Nat.le_add_right d e, hlt'⟩
  obtain ⟨d, hd⟩ := Machine.exists_le_of_rises hmono hrise 7
  have hsix : stage d ≤ 6 := List.idxOf_le_length
  omega

/-- **A hold attended to gains its reset**, unless the button is let go
before the second expiry. -/
theorem Attended.gains (hv : Attended hs acts) (h0 : Course.Held r 0 (hs 0))
    (hpress : ∃ n, Course.actOf (hs n) (acts n) = some (.edge true))
    (hrelease : ∀ n, Course.actOf (hs n) (acts n) = some (.edge false) → 2 ≤ expiries acts n) :
    ∃ n, r < (hs n).resets := by
  obtain ⟨n, ⟨-, hc⟩, htwo⟩ := hv.expires h0 hpress hrelease
  have hr : ∀ k, r ≤ (hs k).resets := by
    intro k
    induction k with
    | zero => exact h0.1
    | succ k ih => exact ih.trans (resets_le_step (hv.step k))
  split_ifs at hc with hdown
  · rcases Course.held_due _ hc htwo with hdue | hgained
    · exact hv.gains_of_due hr hdue
    · have hpos : 0 < (hs n).resets - r := hgained
      exact ⟨n, by omega⟩
  · omega

end Hold

end SoilSensor
