import SoilSensor.App.Stages
/-!
# Releasing the button cancels

A reset is scheduled by a timer event, and the expiry that posted it was
one of a button held down, if every release got through. It is the queue
that decides: read to its end, it says what the machine will take the
button for, and while the button is up that has to be "up". A release that
finds the queue full is dropped with a warning, and where the queue still
ends in a push, or the flag of a hold stands behind it, nothing else will
end the hold. `held_of_no_lost_release` says that a run without such a
drop schedules no reset that a release should have cancelled.
-/

namespace SoilSensor

/-- What an event makes of the position the machine takes the button for. -/
def AppEvent.press (pressed : Bool) : AppEvent → Bool
  | .button pinNo action => if pinNo = FUNCTION_BUTTON then action = .buttonPushed else pressed
  | _ => pressed

/-- **The position after all of the events.** -/
def pressedAfter (pressed : Bool) (events : List AppEvent) : Bool :=
  events.foldl AppEvent.press pressed

/-- **No expiry of a released button finds a hold**: each stands behind
events that leave the button up. -/
def LateOnly (pressed : Bool) : List AppEvent → Prop
  | [] => True
  | e :: rest => (∀ x, e = .timer x → x.held = false → pressed = false) ∧
      LateOnly (e.press pressed) rest

variable {p p' : Bool} {q : List AppEvent} {e : AppEvent}

@[simp] theorem pressedAfter_append :
    pressedAfter p (q ++ [e]) = e.press (pressedAfter p q) := by
  simp [pressedAfter]

theorem press_mono (h : p' → p) : e.press p' → e.press p := by
  cases e with
  | button pinNo action =>
    simp only [AppEvent.press]
    split_ifs
    · exact id
    · exact h
  | _ => exact h

/-- Where the flag is down already, it is not up at the end for that. -/
theorem pressedAfter_mono (h : p' → p) : pressedAfter p' q → pressedAfter p q := by
  induction q generalizing p p' with
  | nil => exact h
  | cons e rest ih => exact ih (press_mono h)

theorem LateOnly.mono (h : p' → p) (hl : LateOnly p q) : LateOnly p' q := by
  induction q generalizing p p' with
  | nil => trivial
  | cons e rest ih =>
    obtain ⟨he, hrest⟩ := hl
    refine ⟨fun x hx hheld => ?_, ih (press_mono h) hrest⟩
    have hp := he x hx hheld
    cases p' with
    | false => rfl
    | true => rw [h rfl] at hp; cases hp

/-- An event at the back stands behind all the others. -/
theorem lateOnly_append : LateOnly p (q ++ [e]) ↔
    LateOnly p q ∧ ∀ x, e = .timer x → x.held = false → pressedAfter p q = false := by
  induction q generalizing p with
  | nil => simp [LateOnly, pressedAfter]
  | cons b rest ih =>
    rw [List.cons_append, LateOnly, LateOnly, ih, and_assoc]
    rfl

namespace Hold

variable {h h' : Hold} {a : Act} {event : AppEvent} {rest : List AppEvent}

/-- **The invariant**: with the button up, the machine will take it for up,
and so it will when it meets an expiry of a button that was up. -/
structure Heeded (h : Hold) : Prop where
  up : h.held = false → pressedAfter h.active h.pending = false
  late : LateOnly h.active h.pending

/-- The input is a release that is lost on a machine that will take the
button for pressed. -/
def LosesRelease (h : Hold) (a : Act) : Prop :=
  a = .edge false true ∧ pressedAfter h.active h.pending

/-- **The flag never says more than the events did.** -/
theorem press_of_active_handle (hact : (handle event h).active) : event.press h.active := by
  cases event with
  | button pinNo action =>
    simp only [AppEvent.press]
    by_cases hpin : pinNo = FUNCTION_BUTTON
    · rw [if_pos hpin]
      by_cases hpush : action = .buttonPushed
      · exact decide_eq_true hpush
      · -- a release takes the flag down, whether or not it was up
        simp only [handle, hpin, ne_eq, not_true_eq_false, if_false, if_neg hpush] at hact
        rw [release] at hact
        split_ifs at hact with hup
        exact absurd hact hup
    · rw [if_neg hpin]
      rw [handle, if_pos hpin] at hact
      exact hact
  | timer x =>
    rw [handle, timeout] at hact
    split_ifs at hact with h₁ h₂
    · exact h₁.1
    · exact h₂.1
    · exact hact
  | updateLedState => exact hact
  | other => exact hact

/-- **A dispatch keeps it**: what is still pending was pending behind the
event. -/
theorem Heeded.handle (hs : h.Heeded) (hp : h.pending = event :: rest) :
    (Hold.handle event { h with pending := rest }).Heeded := by
  have hmono : (Hold.handle event { h with pending := rest }).active → event.press h.active :=
    press_of_active_handle (h := { h with pending := rest })
  have hlate := hs.late
  rw [hp] at hlate
  constructor
  · intro hheld
    rw [handle_held] at hheld
    have hup : pressedAfter (event.press h.active) rest = false := by
      have := hs.up hheld
      rwa [hp] at this
    rw [handle_pending]
    -- the handler may leave the flag down where the event said "up", never the other way
    by_contra hc
    rw [Bool.not_eq_false] at hc
    rw [pressedAfter_mono hmono hc] at hup
    cases hup
  · rw [handle_pending]
    exact hlate.2.mono hmono

/-- A post keeps it, lost or not, if it moves neither the flag nor the
position the button is taken for. -/
theorem Heeded.offer {lost : Bool} (hs : h.Heeded) (hpress : ∀ p, event.press p = p)
    (hlate : ∀ x, event = .timer x → x.held = false → h.held = false) :
    (h.offer lost event).Heeded := by
  cases lost with
  | true => exact ⟨hs.up, hs.late⟩
  | false =>
    refine ⟨fun hheld => ?_, lateOnly_append.2 ⟨hs.late, fun x hx hheld => ?_⟩⟩
    · change pressedAfter h.active (h.pending ++ [event]) = false
      rw [pressedAfter_append, hpress]
      exact hs.up hheld
    · exact hs.up (hlate x hx hheld)

/-- **An edge keeps it**, if it is no release that is lost at the wrong
time. -/
theorem Heeded.edge {pressed lost : Bool} (hs : h.Heeded)
    (hc : ¬ h.LosesRelease (.edge pressed lost)) :
    (Hold.offer lost (edgeEvent pressed) { h with held := pressed }).Heeded := by
  cases lost with
  | true =>
    refine ⟨fun hheld => ?_, hs.late⟩
    obtain rfl : pressed = false := hheld
    exact Bool.eq_false_iff.2 fun hup => hc ⟨rfl, hup⟩
  | false =>
    refine ⟨fun hheld => ?_, lateOnly_append.2 ⟨hs.late, by simp [edgeEvent]⟩⟩
    obtain rfl : pressed = false := hheld
    change pressedAfter h.active (h.pending ++ [edgeEvent false]) = false
    rw [pressedAfter_append]
    rfl

/-- **A step that loses no such release keeps it.** -/
theorem Heeded.step (hs : h.Heeded) (hc : ¬ h.LosesRelease a) (hstep : Hold.step h a = some h') :
    h'.Heeded := by
  rcases step_cases hstep with ⟨-, rfl⟩ | ⟨pressed, lost, rfl, rfl⟩ | ⟨lost, -, -, rfl⟩ |
    ⟨e, lost, -, hf, rfl⟩ | ⟨e, rest, -, hp, rfl⟩
  · exact hs
  · exact hs.edge hc
  · -- the expiry says whether the button is held, so it is late only if it is up
    refine Heeded.offer ⟨hs.up, hs.late⟩ (fun _ => rfl) fun x hx hheld => ?_
    obtain rfl := AppEvent.timer.inj hx
    exact hheld
  · have hpress : ∀ p, e.press p = p := fun p => by
      cases e <;> first | rfl | exact absurd hf Bool.false_ne_true
    refine hs.offer hpress fun x hx => ?_
    rw [hx] at hf
    exact absurd hf Bool.false_ne_true
  · exact hs.handle hp

/-- So a timer event that meets an active hold is one of a held button. -/
theorem Heeded.held {x : Expiry} (hs : h.Heeded) (hp : h.pending = .timer x :: rest)
    (hact : h.active) : x.held := by
  have hlate := hs.late
  rw [hp] at hlate
  by_contra hx
  have := hlate.1 x rfl (by simpa using hx)
  rw [hact] at this
  cases this

end Hold

/-! ## The application -/

open AppTask Hold

/-- The step is a release of the function button. -/
def AppTask.Step.ReleaseEdge : Step → Prop
  | .buttons buttonState hasChanged =>
    FUNCTION_BUTTON_MASK &&& hasChanged ≠ 0 ∧ FUNCTION_BUTTON_MASK &&& buttonState = 0
  | _ => False

instance (a : Step) : Decidable a.ReleaseEdge := by
  cases a <;> unfold AppTask.Step.ReleaseEdge <;> infer_instance

/-- The step is a release that finds the queue full, while the flag and the
events pending say that the button is down. -/
def LosesRelease (s : AppState) (a : Step) : Prop :=
  a.ReleaseEdge ∧ s.sAppEventQueue.Full ∧ pressedAfter s.mFunctionTimerActive s.pending

instance (s : AppState) (a : Step) : Decidable (LosesRelease s a) :=
  inferInstanceAs (Decidable (_ ∧ _))

variable {cfg : Config} {tr : List (Transition AppState Step)} {s s' : AppState} {a : Step}

/-- What is lost to the hold was a release that found the queue full. -/
theorem losesRelease_of_actOf (h : (ofApp s).LosesRelease (actOf s a)) : LosesRelease s a := by
  obtain ⟨hact, hup⟩ := h
  cases a with
  | buttons buttonState hasChanged =>
    simp only [actOf] at hact
    split_ifs at hact with hmask
    obtain ⟨hst, hfull⟩ := Act.edge.inj hact
    refine ⟨⟨hmask, ?_⟩, of_decide_eq_true hfull, hup⟩
    simpa using hst
  | ledTimer =>
    simp only [actOf] at hact
    split_ifs at hact
  | _ => cases hact

/-- **Releasing the button cancels.** In a run that drops no release while
the machine would go on taking the button for pressed, each call of
`ScheduleFactoryReset` is made by a timer event whose timer expired with
the button held. -/
theorem held_of_no_lost_release (cfg : Config) {tr : List (Transition AppState Step)}
    {s : AppState} (r : (appTask cfg).Run tr s) (hc : ∀ t ∈ tr, ¬ LosesRelease t.src t.act) :
    ∀ t ∈ tr, t.src.scheduledResets < t.dst.scheduledResets →
      ∃ x, t.src.Dispatches t.act (.timer x) ∧ x.held := by
  intro t ht hlt
  obtain ⟨tr₁, r₁, hstep, hsub⟩ := r.of_mem ht
  -- the run so far is a run of the hold, and none of its steps loses such a release
  have hlost : ∀ u ∈ tr₁.map (Transition.map ofApp actOf), ¬ u.src.LosesRelease u.act := by
    intro u hu hl
    obtain ⟨v, hv, rfl⟩ := List.mem_map.1 hu
    exact hc v (hsub v hv) (losesRelease_of_actOf hl)
  have h0 : holdMachine.init.Heeded := ⟨fun _ => rfl, trivial⟩
  have hs : (ofApp t.src).Heeded := (run_ofApp r₁).invariant_of
    (G := fun h a => ¬ h.LosesRelease a) h0 (fun hs hg hstep => hs.step hg hstep) hlost
  obtain ⟨⟨x, hd⟩, hact, -⟩ := timesOut_of_scheduled hstep hlt
  exact ⟨x, hd, hs.held (pending_of_taken hd.2) hact⟩

/-- **A release that is lost cancels nothing.** Five presses fill the queue
before the first is dispatched; with one event taken a sixth fits and its
release does not, and the reset is scheduled by two timers that expire
with nobody near the button. -/
theorem not_held_of_lost_release :
    ¬ ∀ (cfg : Config) (tr : List (Transition AppState Step)) (s : AppState),
      (appTask cfg).Run tr s → ∀ t ∈ tr, t.src.scheduledResets < t.dst.scheduledResets →
        ∃ x, t.src.Dispatches t.act (.timer x) ∧ x.held := by
  intro hall
  obtain ⟨tr, s, r, hbad⟩ := (appTask ⟨.two, true⟩).exists_run_of_exec
    (Machine.repeated 5 [Step.buttons 1 1, .buttons 0 1] ++
      Machine.repeated 1 [Step.get, .dispatch, .buttons 1 1, .buttons 0 1] ++
      Machine.repeated 10 [Step.get, .dispatch] ++
      Machine.repeated 2 [Step.functionTimer, .get, .dispatch])
    (fun tr _ => ∃ t ∈ tr, t.src.scheduledResets < t.dst.scheduledResets ∧
      t.src.taken = some (.timer ⟨7, false⟩))
    (by decide +kernel)
  obtain ⟨t, ht, hlt, htaken⟩ := hbad
  obtain ⟨x, ⟨-, hx⟩, hheld⟩ := hall _ tr s r t ht hlt
  rw [htaken] at hx
  cases hx
  cases hheld

/-- The condition is met by a hold that is held to the end, and one that is
released first. -/
theorem held_of_heeded_run : ∃ tr s, (appTask ⟨.two, true⟩).Run tr s ∧ s.scheduledResets = 1 ∧
    ∀ t ∈ tr, t.src.scheduledResets < t.dst.scheduledResets →
      ∃ x, t.src.Dispatches t.act (.timer x) ∧ x.held := by
  obtain ⟨tr, s, r, hres, hc⟩ := (appTask ⟨.two, true⟩).exists_run_of_exec
    [.buttons 1 1, .get, .dispatch, .buttons 0 1, .get, .dispatch, .buttons 1 1, .get, .dispatch,
      .functionTimer, .get, .dispatch, .functionTimer, .get, .dispatch]
    (fun tr s => s.scheduledResets = 1 ∧ ∀ t ∈ tr, ¬ LosesRelease t.src t.act)
    (by decide +kernel)
  exact ⟨tr, s, r, hres, held_of_no_lost_release _ r hc⟩

end SoilSensor
