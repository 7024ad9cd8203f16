import SoilSensor.App.Hold
import SoilSensor.App.Operations
import Mathlib.Logic.Relation
/-!
# A blinking widget keeps blinking

A blink is a chain of one-shot timers: the expiry posts an update, the
update toggles the pin and starts the timer again. The link that can break
is the post, which a full queue drops. `alive_iff_no_lost_update` says it
is the only one: a widget is alive in every state of a run exactly when no
expiry of its timer finds the queue full with no other update for it
waiting.

Everything else that touches a widget goes through its public operations,
and each of these leaves the timer running if it leaves the widget
blinking; `Operated` is what remains of a step when only that is asked.
-/

namespace SoilSensor

namespace LEDWidget

/-- **Operated on**, any number of times. -/
def Operated : LEDWidget → LEDWidget → Prop :=
  Relation.ReflTransGen fun w w' => ∃ op : LedOp, w' = op.run w

variable {w w' : LEDWidget}

theorem operated_runAll {ops : List LedOp} : w.Operated (LedOp.runAll ops w) := by
  induction ops generalizing w with
  | nil => exact Relation.ReflTransGen.refl
  | cons op ops ih => exact Relation.ReflTransGen.head ⟨op, rfl⟩ ih

theorem Operated.tidy (h : w.Operated w') (ht : w.Tidy) : w'.Tidy := by
  induction h with
  | refl => exact ht
  | tail _ hop ih =>
    obtain ⟨op, rfl⟩ := hop
    exact ih.run op

/-- **A widget that was operated on runs its timer if it blinks.** -/
theorem Operated.eq_or_armed (h : w.Operated w') :
    w' = w ∨ (w'.Blinking → w'.mLedTimer.Armed) := by
  rcases Relation.ReflTransGen.cases_tail h with rfl | ⟨v, -, op, rfl⟩
  · exact Or.inl rfl
  · exact Or.inr armed_of_blinking_run

end LEDWidget

open AppTask

/-- **Each widget operated on**, and the callback where it was. -/
structure Operated (s s' : AppState) : Prop where
  leds : ∀ led, (s.leds led).Operated (s'.leds led)
  callback : s'.sStateUpdateCallback = s.sStateUpdateCallback

variable {cfg : Config} {tr : List (Transition AppState Step)} {s s' : AppState} {a : Step}
variable {led : Led}

theorem callback_evaluated : (evaluated s a).sStateUpdateCallback = s.sStateUpdateCallback := by
  cases a with
  | chip type mgr => cases type <;> rfl
  | _ => rfl

/-- **A step that is not an expiry of a widget's timer only operates on
the widgets.** -/
theorem operated_step (ha : ∀ led, a ≠ .ledTimer led) (hstep : AppTask.step cfg s a = some s') :
    Operated s s' := by
  refine ⟨fun led => ?_, ?_⟩
  · rw [Lights.leds_step ha hstep]
    exact LEDWidget.operated_runAll
  · have hcallback : s'.sStateUpdateCallback = (evaluated s a).sStateUpdateCallback :=
      congrArg Lights.callback (Lights.ofApp_step ha hstep)
    exact hcallback.trans callback_evaluated

/-! ## The expiry of a widget's timer -/

/-- **An expiry stops the timer and posts an update**, where there is
room. -/
theorem ledTimer_step (hcb : s.sStateUpdateCallback)
    (hstep : AppTask.step cfg s (.ledTimer led) = some s') :
    (s.leds led).mLedTimer.Armed ∧
      s'.leds = Function.update s.leds led
        { s.leds led with mLedTimer := (s.leds led).mLedTimer.stop } ∧
      s'.sStateUpdateCallback ∧
      s'.pending = if s.sAppEventQueue.Full then s.pending
        else s.pending ++ [.updateLedState led (s.leds led).mLedTimer.starts] := by
  have hpend := congrArg (Option.map Hold.pending) (Hold.hold_step hstep)
  obtain ⟨harm, hlights⟩ := Lights.ofApp_ledTimer hstep
  simp only [Hold.actOf, if_pos hcb, Hold.step, Hold.foreign, if_true, Option.map_some,
    Option.some.injEq, Hold.offer, Hold.full] at hpend
  refine ⟨harm, Lights.leds_ledTimer hstep, ?_, ?_⟩
  · have hcallback : s'.sStateUpdateCallback = s.sStateUpdateCallback :=
      congrArg Lights.callback hlights
    rw [hcallback]
    exact hcb
  · refine Eq.trans hpend.symm ?_
    by_cases hf : s.sAppEventQueue.Full
    · rw [if_pos hf, if_pos (by exact decide_eq_true hf)]; rfl
    · rw [if_neg hf, if_neg (by simpa using hf)]; rfl

/-! ## Alive -/

/-- **A blinking widget is about to go on**: its timer runs, or an update
for it is in the queue or being dispatched. -/
def Alive (led : Led) (s : AppState) : Prop :=
  (s.leds led).Blinking → (s.leds led).mLedTimer.Armed ∨ ∃ e ∈ s.pending, e.Updates led

instance : Decidable (Alive led s) := inferInstanceAs (Decidable (_ → _))

/-- The step is an expiry of the widget's timer that finds the queue full,
and no update for the widget is pending. -/
def LosesUpdate (led : Led) (s : AppState) (a : Step) : Prop :=
  a = .ledTimer led ∧ s.sAppEventQueue.Full ∧ ∀ e ∈ s.pending, ¬ e.Updates led

instance : Decidable (LosesUpdate led s a) := inferInstanceAs (Decidable (_ ∧ _))

/-- **An expiry that is lost with no other update waiting is the end of a
blink, and the only one.** -/
theorem alive_step_iff (ht : (s.leds led).Tidy) (hcb : s.sStateUpdateCallback)
    (hal : Alive led s) (hstep : AppTask.step cfg s a = some s') :
    Alive led s' ↔ ¬ LosesUpdate led s a := by
  by_cases ha : ∃ l, a = .ledTimer l
  · obtain ⟨l, rfl⟩ := ha
    obtain ⟨harm, hleds, -, hpend⟩ := ledTimer_step hcb hstep
    by_cases hl : l = led
    · subst hl
      -- the widget was blinking and still is, so everything rests on what is pending
      have hw : s'.leds l = { s.leds l with mLedTimer := (s.leds l).mLedTimer.stop } := by
        rw [hleds, Function.update_self]
      have hbl : (s'.leds l).Blinking := by
        rw [hw]
        exact ht harm
      have hoff : ¬ (s'.leds l).mLedTimer.Armed := by
        rw [hw]
        exact OneShot.not_armed_stop
      have hal' : Alive l s' ↔ ∃ e ∈ s'.pending, e.Updates l :=
        ⟨fun h => (h hbl).resolve_left hoff, fun h _ => Or.inr h⟩
      rw [hal', hpend]
      by_cases hf : s.sAppEventQueue.Full
      · simp [LosesUpdate, hf]
      · rw [if_neg hf]
        exact iff_of_true ⟨_, List.mem_append_right _ (List.mem_singleton_self _), rfl⟩
          fun h => hf h.2.1
    · have hw : s'.leds led = s.leds led := by
        rw [hleds, Function.update_of_ne (Ne.symm hl)]
      refine iff_of_true ?_ fun h => hl (Step.ledTimer.inj h.1)
      intro hb
      rw [hw] at hb ⊢
      refine (hal hb).imp_right ?_
      rintro ⟨e, he, hu⟩
      refine ⟨e, ?_, hu⟩
      rw [hpend]
      split_ifs
      · exact he
      · exact List.mem_append_left _ he
  · -- no timer expires, so the widget is as it was or runs its timer
    refine iff_of_true ?_ fun h => ha ⟨led, h.1⟩
    have hop := operated_step (fun l hl => ha ⟨l, hl⟩) hstep
    intro hb
    rcases (hop.leds led).eq_or_armed with hw | harm
    · rw [hw] at hb ⊢
      rcases hal hb with harm | ⟨e, he, hu⟩
      · exact Or.inl harm
      · rcases Hold.mem_pending_step (Hold.hold_step hstep) he with he' | ⟨hd, rest, hp⟩
        · exact Or.inr ⟨e, he', hu⟩
        · -- the update is dispatched: it starts the timer
          left
          obtain ⟨rfl, htaken⟩ := Hold.dispatches_of_head hstep hd hp
          cases e with
          | updateLedState ledWidget n =>
            obtain rfl : ledWidget = led := hu
            simp only [AppTask.step, htaken, dispatchEvent] at hstep
            cases hstep
            simp only [onLed, Function.update_self] at hw
            rw [← hw]
            exact LEDWidget.armed_updateState hb
          | _ => cases hu
    · exact Or.inl (harm hb)

/-! ## Runs -/

/-- What `AppTask::Init` leaves and no step changes: the callback, and
widgets whose timers run for a blink only. -/
structure LedsReady (s : AppState) : Prop where
  callback : s.sStateUpdateCallback
  tidy : ∀ led, (s.leds led).Tidy

theorem LedsReady.step (h : LedsReady s) (hstep : AppTask.step cfg s a = some s') :
    LedsReady s' := by
  by_cases ha : ∃ l, a = .ledTimer l
  · obtain ⟨l, rfl⟩ := ha
    obtain ⟨-, hleds, hcb, -⟩ := ledTimer_step h.callback hstep
    refine ⟨hcb, fun led => ?_⟩
    rw [hleds]
    by_cases hl : led = l
    · subst hl
      rw [Function.update_self]
      exact fun harm => absurd harm OneShot.not_armed_stop
    · rw [Function.update_of_ne hl]
      exact h.tidy led
  · have hop := operated_step (fun l hl => ha ⟨l, hl⟩) hstep
    exact ⟨by rw [hop.callback]; exact h.callback, fun led => (hop.leds led).tidy (h.tidy led)⟩

/-- A widget of static storage does not blink. -/
theorem not_blinking_boot : ¬ ((boot cfg).leds led).Blinking ∧
    ¬ ((boot cfg).leds led).mLedTimer.Armed := by
  cases led with
  | factoryReset i =>
    simp only [boot]
    split
    · exact ⟨LEDWidget.not_blinking_set, OneShot.not_armed_stop⟩
    · exact ⟨fun h => h.1 rfl, OneShot.not_armed_fresh⟩
  | _ => exact ⟨fun h => h.1 rfl, OneShot.not_armed_fresh⟩

/-- `AppTask::Init` installs the callback and operates on the widgets. -/
theorem operated_init (hleds : cfg.stateLeds) :
    Operated (setStateUpdateCallback (boot cfg)) (appTask cfg).init := by
  refine ⟨fun led => ?_, ?_⟩
  · rw [Lights.leds_init]
    exact LEDWidget.operated_runAll
  · have hcallback : (appTask cfg).init.sStateUpdateCallback = cfg.stateLeds :=
      congrArg Lights.callback Lights.ofApp_init
    rw [hcallback, hleds]
    rfl

theorem ledsReady_init (hleds : cfg.stateLeds) : LedsReady (appTask cfg).init := by
  have hop := operated_init hleds
  refine ⟨hop.callback, fun led => (hop.leds led).tidy ?_⟩
  exact fun harm => absurd harm not_blinking_boot.2

theorem alive_init (hleds : cfg.stateLeds) : Alive led (appTask cfg).init := by
  intro hb
  rcases ((operated_init hleds).leds led).eq_or_armed with hw | harm
  · rw [hw] at hb
    exact absurd hb not_blinking_boot.1
  · exact Or.inl (harm hb)

/-- A widget that has lost no update is alive, in a state that is ready for
its timers. -/
theorem alive_of_none_lost (hleds : cfg.stateLeds) {tr : List (Transition AppState Step)}
    (r : (appTask cfg).Run tr s) (hnone : ∀ t ∈ tr, ¬ LosesUpdate led t.src t.act) :
    LedsReady s ∧ Alive led s := by
  refine r.invariant_of (I := fun s => LedsReady s ∧ Alive led s)
    (G := fun s a => ¬ LosesUpdate led s a) ⟨ledsReady_init hleds, alive_init hleds⟩ ?_ hnone
  intro s a s' hs hkept hstep
  exact ⟨hs.1.step hstep, (alive_step_iff (hs.1.tidy led) hs.1.callback hs.2 hstep).2 hkept⟩

/-- **A blinking widget never freezes, unless its update is lost**: it is
alive in every state of a run exactly when no expiry of its timer finds
the queue full and no update for it waiting. -/
theorem alive_iff_no_lost_update (cfg : Config) (hleds : cfg.stateLeds) (led : Led)
    {tr : List (Transition AppState Step)} {s : AppState} (r : (appTask cfg).Run tr s) :
    (∀ x ∈ (appTask cfg).visited tr, Alive led x) ↔
      ∀ t ∈ tr, ¬ LosesUpdate led t.src t.act := by
  refine r.forall_visited_iff (I := LedsReady) (D := fun _ _ => True)
    (C := fun s a => ¬ LosesUpdate led s a) (ledsReady_init hleds) (alive_init hleds) ?_ ?_
    fun _ _ => trivial
  · exact fun h hstep => h.step hstep
  · exact fun h hal _ hstep => alive_step_iff (h.tidy led) h.callback hal hstep

/-- **A full queue freezes a blink**: five presses of the button are
waiting as the timer of the status LED expires. -/
theorem frozen_of_lost_update :
    ¬ ∀ (cfg : Config), cfg.stateLeds → ∀ (led : Led) (tr : List (Transition AppState Step))
      (s : AppState), (appTask cfg).Run tr s → ∀ x ∈ (appTask cfg).visited tr, Alive led x := by
  intro hall
  obtain ⟨tr, s, r, hdead⟩ := (appTask ⟨.two, true⟩).exists_run_of_exec
    (Machine.repeated 5 [Step.buttons 1 1, .buttons 0 1] ++
      Machine.repeated 1 [Step.ledTimer .status])
    (fun _ s => ¬ Alive .status s) (by decide +kernel)
  exact hdead (hall _ rfl .status tr s r s r.mem_visited)

/-- The condition is met by a blink the task keeps up with. -/
theorem alive_of_dispatched : ∃ tr s, (appTask ⟨.two, true⟩).Run tr s ∧ tr.length = 8 ∧
    ∀ x ∈ (appTask ⟨.two, true⟩).visited tr, Alive .status x := by
  obtain ⟨tr, s, r, hlen, hc⟩ := (appTask ⟨.two, true⟩).exists_run_of_exec
    [.buttons 1 1, .ledTimer .status, .get, .dispatch, .get, .dispatch, .ledTimer .status, .get]
    (fun tr _ => tr.length = 8 ∧ ∀ t ∈ tr, ¬ LosesUpdate .status t.src t.act) (by decide +kernel)
  exact ⟨tr, s, r, hlen, (alive_iff_no_lost_update _ rfl .status r).2 hc⟩

end SoilSensor
