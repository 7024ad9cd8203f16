import SoilSensor.Common.Ledger
import SoilSensor.App.Accounts
import SoilSensor.App.Release
/-!
# One hold, from press to release

What a press and a release come to, if nothing posted between them is
lost. `Course` is the hold with only its own events left in the queue; it
has no more than a few states between a press and a release, and no more
after, and that there are no others is a matter of looking (`held_closed`,
`released_closed`). So the outcome is known in full, whatever else the
application does meanwhile and however its threads interleave: the machine
is idle again, and a reset was scheduled exactly if the timer expired twice
before the button was let go (`one_hold`).
-/

namespace SoilSensor

/-- What an event is to a hold. -/
inductive Cue
  | push
  | release
  | timer
  deriving DecidableEq

/-- The cue of an event, if it is one to a hold. -/
def AppEvent.cue : AppEvent → Option Cue
  | .button pinNo action =>
    if pinNo ≠ FUNCTION_BUTTON then none
    else some (if action = .buttonPushed then .push else .release)
  | .timer _ => some .timer
  | .updateLedState _ _ | .other _ => none

/-- **The course of a hold**: the two members of `AppTask`, whether the
timer runs, the cues waiting, and the resets gained. -/
structure Course where
  mFunction : FunctionEvent
  active : Bool
  running : Bool
  waiting : List Cue
  gained : ℕ
  deriving DecidableEq

namespace Course

/-- A cue handled. -/
def handle (c : Course) : Cue → Course
  | .push =>
    if ¬ c.active ∧ c.mFunction = .noneSelected then
      { c with mFunction := .softwareUpdate, active := true, running := true }
    else c
  | .release =>
    if c.active then { c with mFunction := .noneSelected, active := false, running := false }
    else c
  | .timer =>
    if c.active ∧ c.mFunction = .softwareUpdate then
      { c with mFunction := .factoryReset, active := true, running := true }
    else if c.active ∧ c.mFunction = .factoryReset then
      { c with mFunction := .noneSelected, gained := c.gained + 1 }
    else c

/-- The inputs of a course. -/
inductive Act
  | edge (pressed : Bool)
  | expire
  | next
  deriving DecidableEq

/-- The cue of an edge. -/
def edgeCue (pressed : Bool) : Cue := if pressed then .push else .release

/-- The steps of a course. -/
def step (c : Course) : Act → Option Course
  | .edge pressed => some { c with waiting := c.waiting ++ [edgeCue pressed] }
  | .expire =>
    if c.running then some { c with running := false, waiting := c.waiting ++ [.timer] }
    else none
  | .next =>
    match c.waiting with
    | cue :: rest => some (handle { c with waiting := rest } cue)
    | [] => none

/-- The button is up and nothing is under way. -/
def up : Course := ⟨.noneSelected, false, false, [], 0⟩

/-- **Every course a held button may be on**, with the expiries of the timer
so far. -/
def held : List (ℕ × Course) :=
  [(0, ⟨.noneSelected, false, false, [.push], 0⟩),
    (0, ⟨.noneSelected, true, true, [], 0⟩),
    (1, ⟨.noneSelected, true, false, [.timer], 0⟩),
    (1, ⟨.factoryReset, true, true, [], 0⟩),
    (2, ⟨.factoryReset, true, false, [.timer], 0⟩),
    (2, ⟨.noneSelected, true, false, [], 1⟩)]

/-- **Every course after its release**, with whether it gains a reset. -/
def released : List (Bool × Course) :=
  [(false, ⟨.noneSelected, false, false, [.push, .release], 0⟩),
    (false, ⟨.noneSelected, true, true, [.release], 0⟩),
    (false, ⟨.noneSelected, true, false, [.release, .timer], 0⟩),
    (false, ⟨.noneSelected, true, false, [.timer, .release], 0⟩),
    (false, ⟨.factoryReset, true, true, [.release], 0⟩),
    (false, ⟨.factoryReset, true, false, [.release, .timer], 0⟩),
    (false, ⟨.noneSelected, false, false, [.timer], 0⟩),
    (false, ⟨.noneSelected, false, false, [], 0⟩),
    (true, ⟨.factoryReset, true, false, [.timer, .release], 0⟩),
    (true, ⟨.noneSelected, true, false, [.release], 1⟩),
    (true, ⟨.noneSelected, false, false, [], 1⟩)]

/-- A press of the button begins a course. -/
theorem up_step : ∀ c' ∈ up.step (.edge true), (0, c') ∈ held := by decide

/-- An expiry or a cue handled leaves the button held. -/
theorem held_closed : ∀ p ∈ held,
    (∀ c' ∈ p.2.step .expire, (p.1 + 1, c') ∈ held) ∧ ∀ c' ∈ p.2.step .next, (p.1, c') ∈ held := by
  decide

/-- **A release settles the course**: it gains a reset exactly if two
expiries came before. -/
theorem held_released : ∀ p ∈ held, ∀ c' ∈ p.2.step (.edge false),
    (decide (2 ≤ p.1), c') ∈ released := by
  decide

/-- Nothing that comes after the release unsettles it. -/
theorem released_closed : ∀ p ∈ released,
    (∀ c' ∈ p.2.step .expire, (p.1, c') ∈ released) ∧
      ∀ c' ∈ p.2.step .next, (p.1, c') ∈ released := by
  decide

/-- And at its end the machine is idle. -/
theorem released_at_rest : ∀ p ∈ released, p.2.running = false → p.2.waiting = [] →
    p.2.mFunction = .noneSelected ∧ p.2.active = false ∧ p.2.gained = if p.1 then 1 else 0 := by
  decide

/-- A course that is not to gain a reset has gained none. -/
theorem released_gained : ∀ p ∈ released, p.1 = false → p.2.gained = 0 := by
  decide

/-- Nor has one of fewer than two expiries while the button is held. -/
theorem held_gained : ∀ p ∈ held, 0 < p.2.gained → 2 ≤ p.1 := by decide

/-- A held button at rest has gained what the expiries come to. -/
theorem held_at_rest : ∀ p ∈ held, p.2.running = false → p.2.waiting = [] →
    2 ≤ p.1 → p.2.gained = 1 := by
  decide

/-! ## The course of the hold -/

/-- The course a hold is on, the resets counted from `r`. -/
def ofHold (r : ℕ) (h : Hold) : Course where
  mFunction := h.mFunction
  active := h.active
  running := decide h.timer.Armed
  waiting := h.pending.filterMap AppEvent.cue
  gained := h.resets - r

/-- What a step of a hold is to its course. -/
def actOf (h : Hold) : Hold.Act → Option Act
  | .quiet => none
  | .edge pressed _ => some (.edge pressed)
  | .expire _ => some .expire
  | .post _ _ => none
  | .dispatch => (h.pending.head?.bind AppEvent.cue).map fun _ => .next

/-- The button after a step of the course. -/
def button (held : Bool) : Option Act → Bool
  | some (.edge pressed) => pressed
  | _ => held

variable {r : ℕ} {h h' : Hold} {a : Hold.Act} {event : AppEvent}

theorem cue_edgeEvent {pressed : Bool} : (Hold.edgeEvent pressed).cue = some (edgeCue pressed) := by
  cases pressed <;> rfl

theorem cue_of_foreign (hf : Hold.foreign event) : event.cue = none := by
  cases event with
  | updateLedState => rfl
  | other => rfl
  | button => exact absurd hf Bool.false_ne_true
  | timer => exact absurd hf Bool.false_ne_true

/-- An event that arrives is waiting with its cue. -/
theorem ofHold_offer : ofHold r (h.offer false event) =
    { ofHold r h with waiting := (ofHold r h).waiting ++ event.cue.toList } := by
  have hmap : (h.pending ++ [event]).filterMap AppEvent.cue =
      h.pending.filterMap AppEvent.cue ++ event.cue.toList := by
    rw [List.filterMap_append]
    cases hc : event.cue <;> simp [hc]
  simp only [ofHold, Hold.offer, Bool.false_eq_true, if_false, hmap]

/-- An event handled is its cue handled, and nothing where it has none. -/
theorem ofHold_handle (hr : r ≤ h.resets) : ofHold r (Hold.handle event h) =
    match event.cue with
    | some cue => (ofHold r h).handle cue
    | none => ofHold r h := by
  cases event with
  | button pinNo action =>
    simp only [AppEvent.cue, Hold.handle]
    by_cases hpin : pinNo ≠ FUNCTION_BUTTON
    · rw [if_pos hpin, if_pos hpin]
    rw [if_neg hpin, if_neg hpin]
    by_cases hact : action = .buttonPushed
    · rw [if_pos hact, if_pos hact]
      by_cases hidle : ¬ h.active ∧ h.mFunction = .noneSelected
      · have harm : decide (h.timer.start kFactoryResetTriggerTimeout).Armed = true :=
          decide_eq_true OneShot.armed_start
        rw [Hold.push, if_pos hidle]
        simp only [handle, ofHold, harm]
        exact (if_pos hidle).symm
      · have hidle' : ¬ (¬ (ofHold r h).active ∧ (ofHold r h).mFunction = .noneSelected) := hidle
        rw [Hold.push, if_neg hidle]
        simp only [handle, if_neg hidle']
    · rw [if_neg hact, if_neg hact]
      by_cases hactive : h.active
      · have harm : decide h.timer.stop.Armed = false := decide_eq_false OneShot.not_armed_stop
        rw [Hold.release, if_pos hactive]
        simp only [handle, ofHold, harm]
        exact (if_pos hactive).symm
      · have hactive' : ¬ (ofHold r h).active := hactive
        rw [Hold.release, if_neg hactive]
        simp only [handle, if_neg hactive']
  | timer x =>
    simp only [AppEvent.cue, Hold.handle, Hold.timeout, handle]
    by_cases htrig : h.active ∧ h.mFunction = .softwareUpdate
    · have htrig' : (ofHold r h).active ∧ (ofHold r h).mFunction = .softwareUpdate := htrig
      have harm : decide (h.timer.start kFactoryResetCancelWindowTimeout).Armed = true :=
        decide_eq_true OneShot.armed_start
      rw [if_pos htrig, if_pos htrig']
      simp only [ofHold, harm]
    · have htrig' : ¬ ((ofHold r h).active ∧ (ofHold r h).mFunction = .softwareUpdate) := htrig
      rw [if_neg htrig, if_neg htrig']
      by_cases hwin : h.active ∧ h.mFunction = .factoryReset
      · have hwin' : (ofHold r h).active ∧ (ofHold r h).mFunction = .factoryReset := hwin
        have hgain : h.resets + 1 - r = h.resets - r + 1 := by omega
        rw [if_pos hwin, if_pos hwin']
        simp only [ofHold, hgain]
      · have hwin' : ¬ ((ofHold r h).active ∧ (ofHold r h).mFunction = .factoryReset) := hwin
        rw [if_neg hwin, if_neg hwin']
  | updateLedState => rfl
  | other => rfl

/-- **A hold keeps its course.** A step that loses nothing is a step of the
course or nothing to it, and moves the button as the course says. -/
theorem ofHold_step (hr : r ≤ h.resets) (hlost : a.lost = false) (hs : Hold.step h a = some h') :
    h'.held = button h.held (actOf h a) ∧ (∀ p, actOf h a = some (.edge p) → p ≠ h.held) ∧
      match actOf h a with
      | some b => (ofHold r h).step b = some (ofHold r h')
      | none => ofHold r h' = ofHold r h := by
  cases a with
  | quiet =>
    obtain rfl := Option.some.inj hs
    exact ⟨rfl, fun p hp => (by cases hp), rfl⟩
  | edge pressed lost =>
    obtain rfl : lost = false := hlost
    simp only [Hold.step] at hs
    split_ifs at hs with hedge
    obtain rfl := Option.some.inj hs
    refine ⟨rfl, fun p hp => ?_, ?_⟩
    · obtain rfl := Act.edge.inj (Option.some.inj hp)
      exact hedge
    · simp only [actOf]
      rw [ofHold_offer, cue_edgeEvent]
      rfl
  | expire lost =>
    obtain rfl : lost = false := hlost
    simp only [Hold.step] at hs
    split_ifs at hs with harm
    obtain rfl := Option.some.inj hs
    refine ⟨rfl, fun p hp => (by cases hp), ?_⟩
    simp only [actOf]
    rw [ofHold_offer, step, if_pos (by simpa [ofHold] using harm)]
    simp [ofHold, AppEvent.cue]
  | post event lost =>
    obtain rfl : lost = false := hlost
    simp only [Hold.step] at hs
    split_ifs at hs with hf
    obtain rfl := Option.some.inj hs
    refine ⟨rfl, fun p hp => (by cases hp), ?_⟩
    simp only [actOf]
    rw [ofHold_offer, cue_of_foreign hf, Option.toList_none, List.append_nil]
  | dispatch =>
    simp only [Hold.step] at hs
    split at hs
    · rename_i event rest hp
      obtain rfl := Option.some.inj hs
      have hrest : r ≤ ({ h with pending := rest } : Hold).resets := hr
      rw [Hold.handle_held, ofHold_handle hrest]
      simp only [actOf, hp, List.head?_cons, Option.bind_some]
      cases hc : event.cue with
      | none => exact ⟨rfl, fun p hp => (by cases hp), by simp [ofHold, hp, hc]⟩
      | some cue => exact ⟨rfl, fun p hp => (by cases hp), by simp [step, ofHold, hp, hc]⟩
    · exact absurd hs (by simp)

/-! ## The two halves of a hold -/

/-- The button is up and idle, or held and on a course that has seen `n`
expiries. -/
def Held (r n : ℕ) (h : Hold) : Prop :=
  r ≤ h.resets ∧ if h.held then (n, ofHold r h) ∈ held else n = 0 ∧ ofHold r h = up

/-- The button is up again, on a course that gains a reset or does not. -/
def Released (r : ℕ) (won : Bool) (h : Hold) : Prop :=
  r ≤ h.resets ∧ h.held = false ∧ (won, ofHold r h) ∈ released

theorem actOf_expire : actOf h a = some .expire ↔ a.isExpiry = true := by
  cases a with
  | dispatch =>
    simp only [actOf]
    cases h.pending.head?.bind AppEvent.cue <;> simp [Hold.Act.isExpiry]
  | _ => simp [actOf, Hold.Act.isExpiry]

theorem eq_up {c : Course} (hf : c.mFunction = .noneSelected) (ha : c.active = false)
    (hr : c.running = false) (hw : c.waiting = []) (hg : c.gained = 0) : c = up := by
  obtain ⟨mFunction, active, running, waiting, gained⟩ := c
  cases hf
  cases ha
  cases hr
  cases hw
  cases hg
  rfl

/-- The timer of a button that is up does not run, and no cue waits. -/
theorem up_stuck : up.step .expire = none ∧ up.step .next = none := ⟨rfl, rfl⟩

/-- **Up to the release**: a step that is no release keeps to the courses
of a held button, and counts its expiries. -/
theorem Held.step {n : ℕ} (hh : Held r n h) (hlost : a.lost = false)
    (hno : actOf h a ≠ some (.edge false)) (hs : Hold.step h a = some h') :
    Held r (n + a.isExpiry.toNat) h' := by
  obtain ⟨hr, hc⟩ := hh
  obtain ⟨hbutton, hedge, hcourse⟩ := ofHold_step hr hlost hs
  have hexp : a.isExpiry = decide (actOf h a = some .expire) := by
    rw [Bool.eq_iff_iff, decide_eq_true_iff, actOf_expire]
  refine ⟨hr.trans (Hold.resets_le_step hs), ?_⟩
  rw [hbutton, hexp]
  cases hact : actOf h a with
  | none =>
    rw [hact] at hcourse
    rw [hcourse]
    exact hc
  | some b =>
    rw [hact] at hcourse
    cases b with
    | edge pressed =>
      cases pressed with
      | false => exact absurd hact hno
      | true =>
        have hup : h.held = false := by simpa using (hedge true hact).symm
        rw [if_neg (by simp [hup])] at hc
        obtain ⟨rfl, hc⟩ := hc
        rw [hc] at hcourse
        exact up_step _ hcourse
    | expire =>
      have hkept : button h.held (some .expire) = h.held := rfl
      rw [hkept]
      by_cases hheld : h.held
      · rw [if_pos hheld] at hc ⊢
        exact (held_closed _ hc).1 _ hcourse
      · rw [if_neg hheld] at hc
        have hstuck : up.step .expire = some (ofHold r h') := hc.2 ▸ hcourse
        rw [up_stuck.1] at hstuck
        cases hstuck
    | next =>
      have hkept : button h.held (some .next) = h.held := rfl
      rw [hkept]
      by_cases hheld : h.held
      · rw [if_pos hheld] at hc ⊢
        exact (held_closed _ hc).2 _ hcourse
      · rw [if_neg hheld] at hc
        have hstuck : up.step .next = some (ofHold r h') := hc.2 ▸ hcourse
        rw [up_stuck.2] at hstuck
        cases hstuck

/-- **The release**: what the timer has done decides the outcome. -/
theorem Held.release {n : ℕ} (hh : Held r n h) (hlost : a.lost = false)
    (hact : actOf h a = some (.edge false)) (hs : Hold.step h a = some h') :
    Released r (decide (2 ≤ n)) h' := by
  obtain ⟨hr, hc⟩ := hh
  obtain ⟨hbutton, hedge, hcourse⟩ := ofHold_step hr hlost hs
  have hheld : h.held = true := by simpa using (hedge false hact).symm
  rw [hact] at hbutton hcourse
  rw [if_pos hheld] at hc
  exact ⟨hr.trans (Hold.resets_le_step hs), hbutton, held_released _ hc _ hcourse⟩

/-- **After the release**: a step that is no press keeps to the courses of
that outcome. -/
theorem Released.step {won : Bool} (hh : Released r won h) (hlost : a.lost = false)
    (hno : actOf h a ≠ some (.edge true)) (hs : Hold.step h a = some h') :
    Released r won h' := by
  obtain ⟨hr, hup, hc⟩ := hh
  obtain ⟨hbutton, hedge, hcourse⟩ := ofHold_step hr hlost hs
  refine ⟨hr.trans (Hold.resets_le_step hs), ?_⟩
  rw [hbutton]
  cases hact : actOf h a with
  | none =>
    rw [hact] at hcourse
    rw [hcourse]
    exact ⟨hup, hc⟩
  | some b =>
    rw [hact] at hcourse
    cases b with
    | edge pressed =>
      cases pressed with
      | true => exact absurd hact hno
      | false => exact absurd hup.symm (hedge false hact)
    | expire => exact ⟨hup, (released_closed _ hc).1 _ hcourse⟩
    | next => exact ⟨hup, (released_closed _ hc).2 _ hcourse⟩

end Course

/-! ## Runs of the application -/

/-- **Nothing of a hold is under way**: its timer is stopped, and none of its
events waits. -/
def AppState.AtRest (s : AppState) : Prop :=
  ¬ s.sFunctionTimer.Armed ∧ ∀ e ∈ s.pending, e.cue = none

instance (s : AppState) : Decidable s.AtRest := inferInstanceAs (Decidable (_ ∧ _))

open AppTask

variable {cfg : Config} {m s s' : AppState} {a : Step} {tr : List (Transition AppState Step)}

theorem AppState.atRest_iff : s.AtRest ↔ ∀ r, (Course.ofHold r (Hold.ofApp s)).running = false ∧
    (Course.ofHold r (Hold.ofApp s)).waiting = [] := by
  have hrunning : ∀ r, (Course.ofHold r (Hold.ofApp s)).running = false ↔
      ¬ s.sFunctionTimer.Armed := fun r => decide_eq_false_iff_not
  have hwaiting : ∀ r, (Course.ofHold r (Hold.ofApp s)).waiting = [] ↔
      ∀ e ∈ s.pending, e.cue = none := fun r => List.filterMap_eq_nil_iff
  simp only [AtRest, hrunning, hwaiting, forall_const]

/-- An edge of the course is an edge of the function button. -/
theorem courseAct_edge {pressed : Bool} :
    Course.actOf (Hold.ofApp s) (Hold.actOf s a) = some (.edge pressed) ↔
      if pressed then a.isPress = true else a.ReleaseEdge := by
  cases a with
  | buttons buttonState hasChanged =>
    simp only [Hold.actOf, Step.isPress, Step.ReleaseEdge]
    by_cases hmask : FUNCTION_BUTTON_MASK &&& hasChanged ≠ 0
    · rw [if_pos hmask]
      cases pressed <;> simp [Course.actOf, hmask]
    · rw [if_neg hmask]
      cases pressed <;> simp [Course.actOf, hmask]
  | ledTimer =>
    simp only [Hold.actOf]
    split_ifs <;> cases pressed <;> simp [Course.actOf, Step.isPress, Step.ReleaseEdge]
  | dispatch =>
    simp only [Hold.actOf, Course.actOf]
    cases (Hold.ofApp s).pending.head?.bind AppEvent.cue <;> cases pressed <;>
      simp [Step.isPress, Step.ReleaseEdge]
  | _ => cases pressed <;> simp [Hold.actOf, Course.actOf, Step.isPress, Step.ReleaseEdge]

/-- A run that drops nothing more loses no post, wherever it starts. -/
theorem not_lost_from (r : ((appTask cfg).startAt m).Run tr s) (hdrop : s.dropped = m.dropped) :
    ∀ t ∈ tr, (Hold.actOf t.src t.act).lost = false := by
  have hcount : ∀ {s a s'}, AppTask.step cfg s a = some s' →
      s'.dropped = s.dropped + (Hold.actOf s a).lost.toNat :=
    fun h => Hold.losses_step (Hold.hold_step h)
  intro t ht
  obtain ⟨tr₁, r₁, hstep, -⟩ := r.of_mem ht
  have hlow : m.dropped ≤ t.src.dropped := r₁.invariant (I := fun s => m.dropped ≤ s.dropped)
    (Nat.le_refl _) fun hs h => by
      have := hcount h
      omega
  have hhigh : t.dst.dropped ≤ s.dropped :=
    r.le_of_mem (f := AppState.dropped) (fun h => by have := hcount h; omega) ht
  have hone := hcount hstep
  cases hl : (Hold.actOf t.src t.act).lost with
  | false => rfl
  | true => rw [hl, Bool.toNat_true] at hone; omega

variable {tr₁ tr₂ : List (Transition AppState Step)} {t : Transition AppState Step}

/-- A machine with nothing under way is at the start of a course. -/
theorem Course.held_of_rest (hidle : m.Idle) (hrest : m.AtRest) (hup : m.buttonHeld = false) :
    Course.Held m.scheduledResets 0 (Hold.ofApp m) := by
  have hcourse : Course.ofHold m.scheduledResets (Hold.ofApp m) = Course.up := by
    obtain ⟨hrunning, hwaiting⟩ := AppState.atRest_iff.1 hrest m.scheduledResets
    have hgained : (Course.ofHold m.scheduledResets (Hold.ofApp m)).gained = 0 := Nat.sub_self _
    exact Course.eq_up hidle.1 hidle.2 hrunning hwaiting hgained
  refine ⟨Nat.le_refl _, ?_⟩
  rw [if_neg (by simp [Hold.ofApp, hup])]
  exact ⟨rfl, hcourse⟩

/-- **Up to the release** the course of a held button is kept, and its
expiries are counted. -/
theorem held_of_run (r : ((appTask cfg).startAt m).Run tr₁ s) (hidle : m.Idle)
    (hrest : m.AtRest) (hup : m.buttonHeld = false)
    (hlost : ∀ u ∈ tr₁, (Hold.actOf u.src u.act).lost = false)
    (hno : ∀ u ∈ tr₁, ¬ u.act.ReleaseEdge) :
    Course.Held m.scheduledResets (tr₁.countP fun u => u.act.isExpiry) (Hold.ofApp s) := by
  have hheld := r.recorded (P := fun s n => Course.Held m.scheduledResets n (Hold.ofApp s))
    (G := fun s a => (Hold.actOf s a).lost = false ∧ ¬ a.ReleaseEdge)
    (f := fun n a => n + a.isExpiry.toNat) (Course.held_of_rest hidle hrest hup)
    (fun hs hG h => by
      rw [← actOf_isExpiry]
      refine hs.step hG.1 (fun hact => hG.2 ?_) (Hold.hold_step h)
      simpa using courseAct_edge.1 hact)
    fun u hu => ⟨hlost u hu, hno u hu⟩
  rw [Machine.record_countP, Nat.zero_add] at hheld
  exact hheld

/-- **After the release** it is a course of the outcome. -/
theorem released_of_run (r : ((appTask cfg).startAt m).Run (tr₁ ++ t :: tr₂) s)
    (hidle : m.Idle) (hrest : m.AtRest) (hup : m.buttonHeld = false)
    (hdrop : s.dropped = m.dropped)
    (h₁ : ∀ u ∈ tr₁, ¬ u.act.ReleaseEdge) (ht : t.act.ReleaseEdge)
    (h₂ : ∀ u ∈ tr₂, u.act.isPress = false) :
    Course.Released m.scheduledResets (decide (2 ≤ tr₁.countP fun u => u.act.isExpiry))
      (Hold.ofApp s) := by
  have hlost := not_lost_from r hdrop
  obtain ⟨r₁, hstep⟩ := r.split rfl
  have hheld := held_of_run r₁ hidle hrest hup
    (fun u hu => hlost u (List.mem_append_left _ hu)) h₁
  have hmid : t ∈ tr₁ ++ t :: tr₂ := List.mem_append_right _ List.mem_cons_self
  have hact : Course.actOf (Hold.ofApp t.src) (Hold.actOf t.src t.act) = some (.edge false) :=
    courseAct_edge.2 (by simpa using ht)
  have hreleased := hheld.release (hlost t hmid) hact (Hold.hold_step hstep)
  have hafter := r.invariant_after
    (I := fun s => Course.Released m.scheduledResets _ (Hold.ofApp s))
    (G := fun s a => (Hold.actOf s a).lost = false ∧ a.isPress = false)
    (fun hs hG h => by
      refine hs.step hG.1 (fun hact => ?_) (Hold.hold_step h)
      have hpress := courseAct_edge.1 hact
      rw [if_pos rfl, hG.2] at hpress
      cases hpress)
    rfl hreleased fun u hu =>
      ⟨hlost u (List.mem_append_right _ (List.mem_cons_of_mem _ hu)), h₂ u hu⟩
  exact hafter.1

/-- **One hold.** From an idle machine with the button up and nothing of a
hold under way: let the button be pressed once and let go, with whatever
else the application does before, between and after, and let nothing posted
be lost. When nothing of the hold is under way any more the machine is idle
again, and it has scheduled one factory reset if the function timer expired
twice before the button was let go, and none if it did not. -/
theorem one_hold (cfg : Config) {tr₁ tr₂ : List (Transition AppState Step)}
    {t : Transition AppState Step} {m s : AppState}
    (r : ((appTask cfg).startAt m).Run (tr₁ ++ t :: tr₂) s)
    (hidle : m.Idle) (hrest : m.AtRest) (hup : m.buttonHeld = false)
    (hdrop : s.dropped = m.dropped)
    (h₁ : ∀ u ∈ tr₁, ¬ u.act.ReleaseEdge) (ht : t.act.ReleaseEdge)
    (h₂ : ∀ u ∈ tr₂, u.act.isPress = false) (hend : s.AtRest) :
    s.Idle ∧ s.buttonHeld = false ∧ s.scheduledResets =
      m.scheduledResets + if 2 ≤ tr₁.countP (fun u => u.act.isExpiry) then 1 else 0 := by
  obtain ⟨hr, hbutton, hc⟩ := released_of_run r hidle hrest hup hdrop h₁ ht h₂
  obtain ⟨hrunning, hwaiting⟩ := AppState.atRest_iff.1 hend m.scheduledResets
  obtain ⟨hfun, hactive, hgained⟩ := Course.released_at_rest _ hc hrunning hwaiting
  refine ⟨⟨hfun, hactive⟩, hbutton, ?_⟩
  have hle : m.scheduledResets ≤ s.scheduledResets := hr
  change s.scheduledResets - m.scheduledResets = _ at hgained
  simp only [decide_eq_true_eq] at hgained
  omega

/-- A hold given up in the cancel window: the window's own expiry comes
before the release is handled, and too late to count. -/
theorem one_hold_given_up : ∃ tr₁ t tr₂ s,
    ((appTask ⟨.two, true⟩).startAt (appTask ⟨.two, true⟩).init).Run (tr₁ ++ t :: tr₂) s ∧
      t.act.ReleaseEdge ∧ tr₁.countP (fun u => u.act.isExpiry) = 1 ∧
      s.Idle ∧ s.buttonHeld = false ∧
      s.scheduledResets = (appTask ⟨.two, true⟩).init.scheduledResets := by
  obtain ⟨tr, s, r, hdrop, hend, h₁, hone, t, hhead, ht, h₂⟩ :=
    ((appTask ⟨.two, true⟩).startAt (appTask ⟨.two, true⟩).init).exists_run_of_exec
      [.post .install, .buttons 1 1, .get, .dispatch, .get, .dispatch, .functionTimer, .get,
        .dispatch, .buttons 0 1, .functionTimer, .get, .dispatch, .get, .dispatch]
      (fun tr s => s.dropped = (appTask ⟨.two, true⟩).init.dropped ∧ s.AtRest ∧
        (∀ u ∈ tr.take 9, ¬ u.act.ReleaseEdge) ∧
        (tr.take 9).countP (fun u => u.act.isExpiry) = 1 ∧
        ∃ t ∈ (tr.drop 9).head?, t.act.ReleaseEdge ∧
          ∀ u ∈ (tr.drop 9).tail, u.act.isPress = false) (by decide +kernel)
  rw [← List.take_append_drop 9 tr, ← List.cons_head?_tail hhead] at r
  have hhold := one_hold _ r (by decide +kernel) (by decide +kernel) rfl hdrop h₁ ht h₂ hend
  rw [hone] at hhold
  exact ⟨_, t, _, s, r, ht, hone, hhold⟩

end SoilSensor
