import SoilSensor.Common.Clock
import SoilSensor.App.Course
/-!
# How long a reset takes

The function timer is started for three seconds in either stage of a hold.
Against a clock that lets no timer expire early, the resets of a run are
bounded by the time it takes (`reset_takes_time`), whatever the queue loses
or delivers late; and the one reset of a hold by the time the button was
held (`held_six_seconds`).
-/

namespace SoilSensor

open AppTask Machine

namespace Hold

variable {h h' : Hold} {a : Act} {event : AppEvent}

@[simp] theorem offer_timer {lost : Bool} : (h.offer lost event).timer = h.timer := by
  cases lost <;> rfl

/-- A handler leaves the timer, stops it, or starts it for three seconds. -/
theorem handle_timer : (handle event h).timer = h.timer ∨ (handle event h).timer = h.timer.stop ∨
    (handle event h).timer = h.timer.start 3000 := by
  cases event with
  | button pinNo action =>
    simp only [handle, push, release]
    split_ifs <;> first
      | exact .inl rfl
      | exact .inr (.inl rfl)
      | exact .inr (.inr rfl)
  | timer x =>
    simp only [handle, timeout]
    split_ifs <;> first
      | exact .inl rfl
      | exact .inr (.inr rfl)
  | updateLedState => exact .inl rfl
  | other => exact .inl rfl

/-- **What a step does to the timer.** -/
theorem timer_step (hs : step h a = some h') :
    (a.isExpiry = true ∧ h.timer.Armed ∧ h'.timer = h.timer.stop) ∨
      a.isExpiry = false ∧ (h'.timer = h.timer ∨ h'.timer = h.timer.stop ∨
        h'.timer = h.timer.start 3000) := by
  rcases step_cases hs with ⟨rfl, rfl⟩ | ⟨_, _, rfl, rfl⟩ | ⟨_, rfl, harm, rfl⟩ |
    ⟨_, _, rfl, -, rfl⟩ | ⟨event, rest, rfl, -, rfl⟩
  · exact .inr ⟨rfl, .inl rfl⟩
  · exact .inr ⟨rfl, .inl offer_timer⟩
  · exact .inl ⟨rfl, harm, offer_timer⟩
  · exact .inr ⟨rfl, .inl offer_timer⟩
  · exact .inr ⟨rfl, handle_timer (h := { h with pending := rest })⟩

end Hold

variable {cfg : Config} {s s' : AppState} {a : Step}

theorem functionTimer_step (h : AppTask.step cfg s a = some s') :
    (a.isExpiry = true ∧ s.sFunctionTimer.Armed ∧ s'.sFunctionTimer = s.sFunctionTimer.stop) ∨
      a.isExpiry = false ∧ (s'.sFunctionTimer = s.sFunctionTimer ∨
        s'.sFunctionTimer = s.sFunctionTimer.stop ∨
        s'.sFunctionTimer = s.sFunctionTimer.start 3000) := by
  have hstep := Hold.timer_step (Hold.hold_step h)
  rw [actOf_isExpiry] at hstep
  exact hstep

/-- `sFunctionTimer`, in milliseconds. -/
def sFunctionTimer (cfg : Config) : (appTask cfg).Timer where
  running s := s.sFunctionTimer.running.map UInt32.toNat
  expires := Step.isExpiry
  starts s _ s' := s'.sFunctionTimer.starts ≠ s.sFunctionTimer.starts
  expire := by
    intro s a s' h ha
    rcases functionTimer_step h with ⟨-, harm, -⟩ | ⟨hno, -⟩
    · rw [Option.isSome_map]
      exact harm
    · rw [ha] at hno
      cases hno
  kept := by
    intro s a s' h hstarts harm
    rw [decide_eq_false_iff_not, Decidable.not_not] at hstarts
    rw [Option.isSome_map] at harm ⊢
    rcases functionTimer_step h with ⟨-, -, heq⟩ | ⟨hno, heq | heq | heq⟩
    · rw [heq] at harm
      exact absurd harm OneShot.not_armed_stop
    · rw [heq] at harm
      exact ⟨hno, harm⟩
    · rw [heq] at harm
      exact absurd harm OneShot.not_armed_stop
    · rw [heq, OneShot.start_starts] at hstarts
      exact absurd hstarts (Nat.succ_ne_self _)

theorem running_sFunctionTimer {s : AppState} :
    ((sFunctionTimer cfg).running s).isSome ↔ s.sFunctionTimer.Armed :=
  Iff.of_eq (congrArg (· = true) Option.isSome_map)

/-- **The application task against a clock.** -/
def timedAppTask (cfg : Config) : Machine (Clocked AppState) (ClockAct Step) :=
  (appTask cfg).clocked (sFunctionTimer cfg)

variable {tr : List (Transition (Clocked AppState) (ClockAct Step))} {m c : Clocked AppState}

/-- The timer is only ever started for three seconds. -/
theorem running_eq (r : ((timedAppTask cfg).startAt m).Run tr c)
    (h0 : ∀ d, m.state.sFunctionTimer.running = some d → d = 3000) :
    ∀ d, c.state.sFunctionTimer.running = some d → d = 3000 := by
  refine r.invariant (I := fun c : Clocked AppState =>
    ∀ d, c.state.sFunctionTimer.running = some d → d = 3000) h0 fun {c a c'} hc h => ?_
  cases a with
  | pass time =>
    obtain rfl := Option.some.inj h
    exact hc
  | step a =>
    intro d hd
    rcases functionTimer_step (of_clocked_step h).2.1 with ⟨-, -, heq⟩ | ⟨-, heq | heq | heq⟩
    · rw [heq] at hd
      cases hd
    · rw [heq] at hd
      exact hc d hd
    · rw [heq] at hd
      cases hd
    · rw [heq] at hd
      exact (Option.some.inj hd).symm

/-- **Two expiries take six seconds** of the time that counts, if it counts
whenever the timer runs. -/
theorem expiries_take_time (counts : AppState → Bool)
    (r : ((timedAppTask cfg).startAt m).Run tr c)
    (h0 : ¬ m.state.sFunctionTimer.Armed)
    (hcounts : ∀ t ∈ tr, t.src.state.sFunctionTimer.Armed → counts t.src.state) :
    3000 * tr.countP (fun t => t.act.step?.any Step.isExpiry) ≤ tally (passing counts) tr := by
  have hnone : ∀ d, m.state.sFunctionTimer.running = some d → d = 3000 := by
    intro d hd
    refine absurd ?_ h0
    rw [OneShot.Armed, hd]
    rfl
  have htakes := Run.takes (T := sFunctionTimer cfg) 3000 counts r (fun t ht d hd => ?_)
    fun t ht harm => hcounts t ht (running_sFunctionTimer.1 harm)
  · have hzero : (sFunctionTimer cfg).towards 3000 m = 0 :=
      if_neg fun harm => h0 (running_sFunctionTimer.1 harm)
    rw [hzero, Nat.zero_add] at htakes
    exact Nat.le_trans (Nat.le_add_left _ _) htakes
  · obtain ⟨time, htime, rfl⟩ := Option.map_eq_some_iff.1 hd
    obtain ⟨tr₁, r₁, -, -⟩ := r.of_mem ht
    rw [running_eq r₁ hnone time htime]
    exact Nat.le_refl 3000

/-- What an expiry is to the application without its clock. -/
theorem countP_unclocked :
    (tr.filterMap (projected Clocked.state ClockAct.step?)).countP (fun t => t.act.isExpiry) =
      tr.countP fun t => t.act.step?.any Step.isExpiry :=
  countP_projected

/-- **A reset takes six seconds.** In every run of the application against a
clock, full queues, lost releases and late expiries included, no more
factory resets have been scheduled than one for every six seconds. -/
theorem reset_takes_time (cfg : Config)
    {tr : List (Transition (Clocked AppState) (ClockAct Step))} {c : Clocked AppState}
    (r : (timedAppTask cfg).Run tr c) :
    6000 * c.state.scheduledResets ≤ tally (passing fun _ => true) tr := by
  have r' : ((timedAppTask cfg).startAt (timedAppTask cfg).init).Run tr c := r
  have happ : (appTask cfg).Run (tr.filterMap (projected Clocked.state ClockAct.step?)) c.state :=
    r'.unclocked
  have hexpiries := resets_le_expiries happ
  rw [countP_unclocked] at hexpiries
  have hstopped : ¬ (timedAppTask cfg).init.state.sFunctionTimer.Armed := by
    have h0 : (appTask cfg).init.sFunctionTimer = .fresh := congrArg Hold.timer Hold.ofApp_init
    change ¬ (appTask cfg).init.sFunctionTimer.Armed
    rw [h0]
    exact OneShot.not_armed_fresh
  have htime := expiries_take_time (fun _ => true) r' hstopped fun _ _ _ => rfl
  omega

/-- The bound is met by a hold kept to its end, on time. -/
theorem reset_takes_time_exactly : ∃ tr c, (timedAppTask ⟨.one, true⟩).Run tr c ∧
    c.state.scheduledResets = 1 ∧ tally (passing fun _ => true) tr = 6000 ∧
    6000 * c.state.scheduledResets ≤ tally (passing fun _ => true) tr := by
  obtain ⟨tr, c, r, hone, htime⟩ := (timedAppTask ⟨.one, true⟩).exists_run_of_exec
    [.step (.buttons 1 1), .step .get, .step .dispatch, .pass 3000, .step .functionTimer,
      .step .get, .step .dispatch, .pass 3000, .step .functionTimer, .step .get, .step .dispatch]
    (fun tr c => c.state.scheduledResets = 1 ∧ tally (passing fun _ => true) tr = 6000)
    (by decide +kernel)
  exact ⟨tr, c, r, hone, htime, reset_takes_time _ r⟩

/-! ## One hold -/

variable {tr₁ tr₂ : List (Transition (Clocked AppState) (ClockAct Step))}
variable {t : Transition (Clocked AppState) (ClockAct Step)}

/-- The application's part of a trace against a clock. -/
def unclock (tr : List (Transition (Clocked AppState) (ClockAct Step))) :
    List (Transition AppState Step) :=
  tr.filterMap (projected Clocked.state ClockAct.step?)

theorem mem_unclock {u : Transition AppState Step} (hu : u ∈ unclock tr) :
    ∃ v ∈ tr, v.act = .step u.act ∧ v.src.state = u.src := by
  obtain ⟨v, hv, hproj⟩ := List.mem_filterMap.1 hu
  obtain ⟨src, act, dst⟩ := v
  cases act with
  | pass time => cases hproj
  | step a =>
    obtain rfl := Option.some.inj hproj
    exact ⟨_, hv, rfl, rfl⟩

/-- **Up to the release the timer runs only while the button is held.** -/
theorem held_of_armed (r : ((timedAppTask cfg).startAt m).Run tr c) (hidle : m.state.Idle)
    (hrest : m.state.AtRest) (hup : m.state.buttonHeld = false)
    (hlost : ∀ u ∈ unclock tr, (Hold.actOf u.src u.act).lost = false)
    (hno : ∀ u ∈ unclock tr, ¬ u.act.ReleaseEdge) :
    c.state.sFunctionTimer.Armed → c.state.buttonHeld = true := by
  intro harm
  have hheld := (held_of_run r.unclocked hidle hrest hup hlost hno).2
  by_contra hnot
  have hup' : ¬ (Hold.ofApp c.state).held := hnot
  rw [if_neg hup'] at hheld
  have hrunning : decide c.state.sFunctionTimer.Armed = false := congrArg Course.running hheld.2
  exact of_decide_eq_false hrunning harm

/-- **A reset needs the button held for six seconds.** From an idle machine
with the button up and nothing of a hold under way: let the button be
pressed and let go, with whatever else the application does, and let nothing
posted be lost. If a reset comes of it, or of anything until the next press,
the button had been held for six seconds when it was let go. -/
theorem held_six_seconds (cfg : Config)
    {tr₁ tr₂ : List (Transition (Clocked AppState) (ClockAct Step))}
    {t : Transition (Clocked AppState) (ClockAct Step)} {m c : Clocked AppState}
    (r : ((timedAppTask cfg).startAt m).Run (tr₁ ++ t :: tr₂) c)
    (hidle : m.state.Idle) (hrest : m.state.AtRest) (hup : m.state.buttonHeld = false)
    (hdrop : c.state.dropped = m.state.dropped)
    (h₁ : ∀ u ∈ tr₁, ∀ a, u.act = .step a → ¬ a.ReleaseEdge)
    (ht : ∃ a, t.act = .step a ∧ a.ReleaseEdge)
    (h₂ : ∀ u ∈ tr₂, ∀ a, u.act = .step a → a.isPress = false)
    (hreset : c.state.scheduledResets ≠ m.state.scheduledResets) :
    6000 ≤ tally (passing AppState.buttonHeld) tr₁ := by
  obtain ⟨a, hact, hrelease⟩ := ht
  have happ : ((appTask cfg).startAt m.state).Run
      (unclock tr₁ ++ ⟨t.src.state, a, t.dst.state⟩ :: unclock tr₂) c.state := by
    have hone : projected Clocked.state ClockAct.step? t =
        some ⟨t.src.state, a, t.dst.state⟩ := by
      rw [projected, hact]
      rfl
    have h := r.unclocked
    rw [List.filterMap_append, List.filterMap_cons_some hone] at h
    exact h
  have hno : ∀ u ∈ unclock tr₁, ¬ u.act.ReleaseEdge := by
    intro u hu
    obtain ⟨v, hv, hvact, -⟩ := mem_unclock hu
    exact h₁ v hv u.act hvact
  have hreleased := released_of_run happ hidle hrest hup hdrop hno hrelease fun u hu => by
    obtain ⟨v, hv, hvact, -⟩ := mem_unclock hu
    exact h₂ v hv u.act hvact
  -- a reset was gained, so the timer had expired twice
  have htwo : 2 ≤ (unclock tr₁).countP fun u => u.act.isExpiry := by
    by_contra hlt
    obtain ⟨hle, -, hcourse⟩ := hreleased
    rw [decide_eq_false hlt] at hcourse
    have hgained := Course.released_gained _ hcourse rfl
    change m.state.scheduledResets ≤ c.state.scheduledResets at hle
    change c.state.scheduledResets - m.state.scheduledResets = 0 at hgained
    omega
  -- and it ran only while the button was held
  have hlost := not_lost_from happ hdrop
  obtain ⟨r₁, -⟩ := r.split rfl
  have hcounts : ∀ u ∈ tr₁, u.src.state.sFunctionTimer.Armed → u.src.state.buttonHeld = true := by
    intro u hu
    obtain ⟨tr₀, r₀, -, hsub⟩ := r₁.of_mem hu
    have hpart : ∀ v ∈ unclock tr₀, v ∈ unclock tr₁ := fun v hv => by
      obtain ⟨w, hw, hproj⟩ := List.mem_filterMap.1 hv
      exact List.mem_filterMap.2 ⟨w, hsub w hw, hproj⟩
    exact held_of_armed r₀ hidle hrest hup
      (fun v hv => hlost v (List.mem_append_left _ (hpart v hv))) fun v hv => hno v (hpart v hv)
  have htime := expiries_take_time AppState.buttonHeld r₁ hrest.1 hcounts
  rw [unclock, countP_unclocked] at htwo
  omega

/-- Six seconds and no more, the queue served at once. -/
theorem held_six_seconds_exactly : ∃ tr₁ t tr₂ c,
    ((timedAppTask ⟨.one, true⟩).startAt (timedAppTask ⟨.one, true⟩).init).Run
        (tr₁ ++ t :: tr₂) c ∧
      (∃ a, t.act = .step a ∧ a.ReleaseEdge) ∧
      c.state.scheduledResets ≠ (timedAppTask ⟨.one, true⟩).init.state.scheduledResets ∧
      tally (passing AppState.buttonHeld) tr₁ = 6000 ∧
      6000 ≤ tally (passing AppState.buttonHeld) tr₁ := by
  obtain ⟨tr, c, r, hdrop, hreset, h₁, htime, t, hhead, ⟨a, ha, hrelease⟩, h₂⟩ :=
    ((timedAppTask ⟨.one, true⟩).startAt (timedAppTask ⟨.one, true⟩).init).exists_run_of_exec
      [.pass 500, .step (.buttons 1 1), .step .get, .step .dispatch, .pass 3000,
        .step .functionTimer, .step .get, .step .dispatch, .pass 3000, .step .functionTimer,
        .step (.buttons 0 1), .step .get, .step .dispatch]
      (fun tr c => c.state.dropped = (timedAppTask ⟨.one, true⟩).init.state.dropped ∧
        c.state.scheduledResets ≠ (timedAppTask ⟨.one, true⟩).init.state.scheduledResets ∧
        (∀ u ∈ tr.take 10, ∀ a ∈ u.act.step?, ¬ a.ReleaseEdge) ∧
        tally (passing AppState.buttonHeld) (tr.take 10) = 6000 ∧
        ∃ t ∈ (tr.drop 10).head?, (∃ a ∈ t.act.step?, a.ReleaseEdge) ∧
          ∀ u ∈ (tr.drop 10).tail, ∀ a ∈ u.act.step?, a.isPress = false) (by decide +kernel)
  rw [← List.take_append_drop 10 tr, ← List.cons_head?_tail hhead] at r
  have hact : t.act = .step a := by
    cases hta : t.act with
    | pass time =>
      rw [hta] at ha
      cases ha
    | step b =>
      rw [hta] at ha
      rw [Option.some.inj ha]
  refine ⟨_, t, _, c, r, ⟨a, hact, hrelease⟩, hreset, htime,
    held_six_seconds _ r (by decide +kernel) (by decide +kernel) rfl hdrop
      (fun u hu b hb => h₁ u hu b ?_) ⟨a, hact, hrelease⟩ (fun u hu b hb => h₂ u hu b ?_) hreset⟩
  · rw [hb]
    rfl
  · rw [hb]
    rfl

end SoilSensor
