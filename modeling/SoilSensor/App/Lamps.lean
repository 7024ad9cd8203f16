import SoilSensor.App.Status
import SoilSensor.App.Toggle
import SoilSensor.App.Window
import SoilSensor.Common.Ledger
/-!
# The identify LED and the reset LEDs

The two lamps that are not the status LED each have one purpose. The
identify LED is in blink mode from an identify start to the next stop
(`identify_shows`), and the dedicated reset LEDs while the cancel window is
open (`resetLEDs_show`); otherwise the pins are low. What makes this more
than a reading of the callbacks is that a blink is kept going by events in
the queue. One that is lost leaves the widget frozen in its mode; one that
comes late finds a widget that no longer blinks, and does not light it again.
-/

namespace SoilSensor

open AppTask

variable {cfg : Config} {s s' : AppState} {a : Step} {led : Led} {event : AppEvent}
variable {tr : List (Transition AppState Step)} {w : LEDWidget}

/-! ## What a list of operations leaves -/

/-- **What becomes of a widget in a step**: its timer expires, or it is
operated on. -/
theorem led_step (hstep : AppTask.step cfg s a = some s') :
    s'.leds led = if a = .ledTimer led then (s.leds led).expire
      else LedOp.runAll (opsOn led (stepOps cfg s a)) (s.leds led) := by
  by_cases htimer : ∃ l, a = .ledTimer l
  · obtain ⟨l, rfl⟩ := htimer
    rw [Lights.leds_ledTimer hstep]
    by_cases hl : l = led
    · rw [if_pos (congrArg Step.ledTimer hl), hl, Function.update_self]
    · rw [if_neg fun h => hl (Step.ledTimer.inj h), Function.update_of_ne (Ne.symm hl)]
      rfl
  · rw [if_neg fun h => htimer ⟨led, h⟩, Lights.leds_step (fun l h => htimer ⟨l, h⟩) hstep]

/-- **What a widget shows follows from the operations of the step**, for
every widget. -/
theorem mode_led_step (hstep : AppTask.step cfg s a = some s') : (s'.leds led).mode =
    (LedOp.runAll (opsOn led (stepOps cfg s a)) (s.leds led)).mode := by
  rw [led_step hstep]
  split_ifs with ha
  · rw [ha]
    exact LEDWidget.mode_expire
  · rfl

/-- A widget stays in its phase. -/
theorem phased_led_step (hs : (s.leds led).Phased) (hstep : AppTask.step cfg s a = some s') :
    (s'.leds led).Phased := by
  rw [led_step hstep]
  split_ifs
  · exact hs.expire
  · exact hs.runAll

/-- **In every run every pin is at the level its widget remembers.** -/
theorem phased_led_of_run (r : (appTask cfg).Run tr s) : (s.leds led).Phased :=
  r.invariant (I := fun s => (s.leds led).Phased) phased_init fun hs h => phased_led_step hs h

/-- A widget in its phase that shows no light has its pin low. -/
theorem LEDWidget.Phased.pin_of_solid {b : Bool} (h : w.Phased) (hm : w.mode = .solid b) :
    w.pin = b := by
  rw [LEDWidget.mode] at hm
  split_ifs at hm
  rw [h.pin]
  exact LedMode.solid.inj hm

/-- A widget in blink mode blinks, if its updates come. -/
theorem LEDWidget.blinking_of_flash {onMS offMS : UInt32} (hm : w.mode = .flash onMS offMS) :
    w.Blinking := by
  rw [LEDWidget.mode] at hm
  split_ifs at hm with hb
  exact hb

/-! ## The identify LED -/

/-- What a callback of the Identify cluster makes of whether the device is
identifying. -/
def identifies (now : Bool) : Step → Bool
  | .identifyStart => true
  | .identifyStop => false
  | _ => now

/-- No handler of an event operates on the identify LED but to toggle it. -/
theorem opsOn_identify_dispatch : opsOn .identify (dispatchOps cfg s event) = [] ∨
    opsOn .identify (dispatchOps cfg s event) = [.updateState] := by
  have hfactory : ∀ op, opsOn .identify (factoryResetOps cfg op) = [] := by
    intro op
    unfold factoryResetOps
    cases cfg.board <;> rfl
  have hstatus : opsOn .identify (statusOps cfg s) = [] := by
    unfold statusOps
    split_ifs <;> rfl
  cases event with
  | button pinNo action =>
    refine Or.inl ?_
    simp only [dispatchOps, cancelOps]
    split_ifs
    · rw [opsOn_append, hfactory, hstatus]
      rfl
    · rw [opsOn_append, hstatus]
      rfl
    · rfl
    · rfl
  | timer x =>
    refine Or.inl ?_
    simp only [dispatchOps, cancelWindowOps]
    split_ifs
    · have hcons : opsOn .identify ((.status, .set false) :: (factoryResetOps cfg (.set false) ++
          factoryResetOps cfg (.blink kBlinkRateMs kBlinkRateMs))) =
          opsOn .identify (factoryResetOps cfg (.set false) ++
            factoryResetOps cfg (.blink kBlinkRateMs kBlinkRateMs)) := rfl
      rw [hcons, opsOn_append, hfactory, hfactory]
      rfl
    · rfl
    · rfl
    · rfl
  | updateLedState l n =>
    by_cases hl : l = .identify
    · exact Or.inr (by simp [opsOn, dispatchOps, hl])
    · exact Or.inl (by simp [opsOn, dispatchOps, hl])
  | other => exact Or.inl rfl

/-- **The LED is in the mode the last callback set.** -/
def ShowsIdentifying (s : AppState) (now : Bool) : Prop :=
  (s.leds .identify).mode = if now then .flash identifyBlinkMs identifyBlinkMs else .solid false

/-- A callback sets the LED, and no other step of the application changes
what it shows. -/
theorem ShowsIdentifying.step {now : Bool} (hleds : cfg.stateLeds)
    (hs : ShowsIdentifying s now) (hother : ∀ op, a ≠ .led .identify op)
    (hstep : AppTask.step cfg s a = some s') : ShowsIdentifying s' (identifies now a) := by
  have hkept : ∀ now', now' = now →
      (LedOp.runAll (opsOn .identify (stepOps cfg s a)) (s.leds .identify)).mode =
        (s.leds .identify).mode → ShowsIdentifying s' now' := by
    intro now' hnow hmode
    rw [ShowsIdentifying, mode_led_step hstep, hmode, hnow]
    exact hs
  cases a with
  | identifyStart =>
    have hblink : ((s.leds .identify).blink identifyBlinkMs identifyBlinkMs).mode =
        .flash identifyBlinkMs identifyBlinkMs := LEDWidget.mode_blink (by decide)
    rw [ShowsIdentifying, mode_led_step hstep, stepOps, if_pos hleds]
    exact hblink
  | identifyStop =>
    rw [ShowsIdentifying, mode_led_step hstep, stepOps, if_pos hleds]
    exact LEDWidget.mode_set
  | dispatch =>
    refine hkept _ rfl ?_
    cases htaken : s.taken with
    | none => simp [stepOps, htaken, opsOn, LedOp.runAll]
    | some event =>
      have hops : stepOps cfg s .dispatch = dispatchOps cfg s event := by rw [stepOps, htaken]; rfl
      rw [hops]
      rcases @opsOn_identify_dispatch cfg s event with h | h
      · rw [h]
        rfl
      · rw [h]
        exact LEDWidget.mode_updateState
  | chip type mgr =>
    have hnone : opsOn .identify (stepOps cfg s (.chip type mgr)) = [] := by
      simp only [stepOps]
      cases evaluate type mgr s with
      | none => rfl
      | some t =>
        simp only [Option.elim_some, statusOps]
        split_ifs <;> rfl
    exact hkept _ rfl (by rw [hnone]; rfl)
  | led l op =>
    have hl : l ≠ .identify := fun h => hother op (h ▸ rfl)
    exact hkept _ rfl (by simp [opsOn, stepOps, hl, LedOp.runAll])
  | _ => exact hkept _ rfl rfl

/-- **The reset LEDs show the cancel window**, up to the first reset. -/
def ShowsWindow (cfg : Config) (s : AppState) : Prop :=
  s.scheduledResets = 0 → ∀ led ∈ cfg.board.sFactoryResetLEDs, (s.leds led).mode =
    if s.mFunction = .factoryReset then .flash kBlinkRateMs kBlinkRateMs else .solid false

/-- The LEDs of a board are operated on all in one. -/
theorem opsOn_factoryResetOps {op : LedOp} (hled : led ∈ cfg.board.sFactoryResetLEDs) :
    opsOn led (factoryResetOps cfg op) = [op] := by
  unfold factoryResetOps
  cases hb : cfg.board with
  | none => rw [hb] at hled; cases hled
  | one =>
    rw [hb] at hled
    rw [List.mem_singleton.1 hled]
    rfl
  | two =>
    rw [hb] at hled
    rcases List.mem_pair.1 hled with rfl | rfl <;> rfl

/-- None of them is one of the other two lamps. -/
theorem Board.eq_factoryReset {board : Board} (hled : led ∈ board.sFactoryResetLEDs) :
    ∃ i, led = .factoryReset i := by
  cases board with
  | none => cases hled
  | one => exact ⟨0, List.mem_singleton.1 hled⟩
  | two => exact (List.mem_pair.1 hled).elim (fun h => ⟨0, h⟩) fun h => ⟨1, h⟩

/-- A board that has them says so. -/
theorem Board.hasFactoryResetLEDs_of_mem {board : Board} (hled : led ∈ board.sFactoryResetLEDs) :
    board.hasFactoryResetLEDs := by
  cases board with
  | none => cases hled
  | _ => rfl

theorem opsOn_factoryReset_statusOps {i : ℕ} : opsOn (.factoryReset i) (statusOps cfg s) = [] := by
  unfold statusOps
  split_ifs <;> rfl

/-- A step that dispatches nothing leaves the reset LEDs as they are, the
operations of other code apart. -/
theorem opsOn_factoryReset_of_ne {i : ℕ} (hd : a ≠ .dispatch)
    (hother : ∀ op, a ≠ .led (.factoryReset i) op) :
    opsOn (.factoryReset i) (stepOps cfg s a) = [] := by
  cases a with
  | dispatch => exact absurd rfl hd
  | chip type mgr =>
    simp only [stepOps]
    cases evaluate type mgr s with
    | none => rfl
    | some t => exact opsOn_factoryReset_statusOps
  | identifyStart => simp only [stepOps]; split_ifs <;> rfl
  | identifyStop => simp only [stepOps]; split_ifs <;> rfl
  | led l op =>
    have hl : l ≠ .factoryReset i := fun h => hother op (h ▸ rfl)
    simp [opsOn, stepOps, hl]
  | _ => rfl

/-- A button event that does not cancel a reset leaves the window as it
is: it is not open where a push begins a hold, or a release ends one. -/
theorem Hold.window_button {h : Hold} {pinNo : ℕ} {action : AppEventType}
    (hno : ¬ (pinNo = FUNCTION_BUTTON ∧ action ≠ .buttonPushed ∧ h.active ∧
      h.mFunction = .factoryReset)) :
    (Hold.handle (.button pinNo action) h).mFunction = .factoryReset ↔
      h.mFunction = .factoryReset := by
  by_cases hpin : pinNo ≠ FUNCTION_BUTTON
  · rw [Hold.handle, if_pos hpin]
  rw [Hold.handle, if_neg hpin]
  by_cases hact : action = .buttonPushed
  · rw [if_pos hact, Hold.push]
    by_cases hidle : ¬ h.active ∧ h.mFunction = .noneSelected
    · rw [if_pos hidle, hidle.2]
    · rw [if_neg hidle]
  · rw [if_neg hact, Hold.release]
    by_cases hactive : h.active
    · have hclosed : h.mFunction ≠ .factoryReset :=
        fun hreset => hno ⟨not_not.1 hpin, hact, hactive, hreset⟩
      rw [if_pos hactive]
      exact iff_of_false (fun hc => FunctionEvent.noConfusion hc) hclosed
    · rw [if_neg hactive]

/-- So does a timeout that does not open it, up to the first reset. -/
theorem Hold.window_timer {h : Hold} {x : Expiry}
    (hno : ¬ (h.active ∧ h.mFunction = .softwareUpdate))
    (hr : (Hold.handle (.timer x) h).resets = 0) :
    (Hold.handle (.timer x) h).mFunction = .factoryReset ↔ h.mFunction = .factoryReset := by
  rw [Hold.handle, Hold.timeout, if_neg hno] at hr ⊢
  by_cases hreset : h.active ∧ h.mFunction = .factoryReset
  · rw [if_pos hreset] at hr
    exact absurd hr (Nat.succ_ne_zero _)
  · rw [if_neg hreset]

/-- **What an event makes of a reset LED**, with the window it leaves: the
trigger lights it and opens the window, a release in the window darkens it
and closes the window, and nothing else does either but the reset. -/
theorem mode_dispatch (hleds : cfg.stateLeds) (hled : led ∈ cfg.board.sFactoryResetLEDs)
    (hstep : AppTask.step cfg s .dispatch = some s') (ht : s.taken = some event)
    (hr : s'.scheduledResets = 0)
    (hs : (s.leds led).mode =
      if s.mFunction = .factoryReset then .flash kBlinkRateMs kBlinkRateMs else .solid false) :
    (s'.leds led).mode =
      if s'.mFunction = .factoryReset then .flash kBlinkRateMs kBlinkRateMs else .solid false := by
  have hof := Hold.ofApp_dispatch hstep ht
  have hfun : s'.mFunction = _ := congrArg Hold.mFunction hof
  have hres : s'.scheduledResets = _ := congrArg Hold.resets hof
  have hops : stepOps cfg s .dispatch = dispatchOps cfg s event := by rw [stepOps, ht]; rfl
  have hboard := Board.hasFactoryResetLEDs_of_mem hled
  rw [hr] at hres
  rw [mode_led_step hstep, hops, hfun]
  cases event with
  | button pinNo action =>
    by_cases hcancel : Cancels pinNo action s
    · obtain ⟨i, rfl⟩ := Board.eq_factoryReset hled
      have hclosed : (Hold.handle (.button pinNo action)
          { Hold.ofApp s with pending := s.sAppEventQueue.items }).mFunction = .noneSelected := by
        obtain ⟨hpin, hact, hactive, -⟩ := hcancel
        rw [Hold.handle, if_neg (not_not.2 hpin), if_neg hact, Hold.release]
        exact congrArg Hold.mFunction (if_pos hactive)
      rw [dispatchOps, if_pos hcancel, cancelOps, if_pos hleds, if_pos hboard, opsOn_append,
        opsOn_factoryResetOps hled, opsOn_factoryReset_statusOps, hclosed]
      exact LEDWidget.mode_set
    · have hkept := @Hold.window_button
        { Hold.ofApp s with pending := s.sAppEventQueue.items } pinNo action hcancel
      rw [dispatchOps, if_neg hcancel]
      exact hs.trans (if_congr hkept.symm rfl rfl)
  | timer x =>
    by_cases htrig : Triggers s
    · have hopen : (Hold.handle (.timer x)
          { Hold.ofApp s with pending := s.sAppEventQueue.items }).mFunction = .factoryReset := by
        rw [Hold.handle, Hold.timeout]
        exact congrArg Hold.mFunction (if_pos htrig)
      obtain ⟨i, rfl⟩ := Board.eq_factoryReset hled
      have hcons : opsOn (.factoryReset i) (cancelWindowOps cfg) =
          opsOn (.factoryReset i) (factoryResetOps cfg (.set false)) ++
            opsOn (.factoryReset i) (factoryResetOps cfg (.blink kBlinkRateMs kBlinkRateMs)) := by
        rw [cancelWindowOps, if_pos hleds, if_pos hboard, ← opsOn_append]
        rfl
      have hblink : (((s.leds (.factoryReset i)).set false).blink kBlinkRateMs kBlinkRateMs).mode =
          .flash kBlinkRateMs kBlinkRateMs := LEDWidget.mode_blink (by decide)
      rw [dispatchOps, if_pos htrig, hcons, opsOn_factoryResetOps hled, opsOn_factoryResetOps hled,
        hopen]
      exact hblink
    · have hkept := @Hold.window_timer
        { Hold.ofApp s with pending := s.sAppEventQueue.items } x htrig hres.symm
      rw [dispatchOps, if_neg htrig]
      exact hs.trans (if_congr hkept.symm rfl rfl)
  | updateLedState l n =>
    by_cases hl : l = led
    · have hone : opsOn led (dispatchOps cfg s (.updateLedState l n)) = [.updateState] := by
        simp [opsOn, dispatchOps, hl]
      rw [hone]
      exact LEDWidget.mode_updateState.trans hs
    · have hnone : opsOn led (dispatchOps cfg s (.updateLedState l n)) = [] := by
        simp [opsOn, dispatchOps, hl]
      rw [hnone]
      exact hs
  | other => exact hs

/-- A step keeps the reset LEDs to the window. -/
theorem ShowsWindow.step (hleds : cfg.stateLeds) (hs : ShowsWindow cfg s)
    (hother : ∀ i op, a ≠ .led (.factoryReset i) op) (hstep : AppTask.step cfg s a = some s') :
    ShowsWindow cfg s' := by
  intro hr led hled
  by_cases hd : a = .dispatch
  · subst hd
    obtain ⟨event, ht, -⟩ := of_step_dispatch hstep
    have hle : s.scheduledResets ≤ s'.scheduledResets := Hold.resets_le_step (Hold.hold_step hstep)
    have hr₀ : s.scheduledResets = 0 := Nat.le_zero.1 (hr ▸ hle)
    exact mode_dispatch hleds hled hstep ht hr (hs hr₀ led hled)
  · obtain ⟨hfun, hres⟩ := Hold.function_step (Hold.hold_step hstep) (Hold.actOf_ne_dispatch hd)
    change s'.mFunction = s.mFunction at hfun
    change s'.scheduledResets = s.scheduledResets at hres
    obtain ⟨i, rfl⟩ := Board.eq_factoryReset hled
    rw [mode_led_step hstep, opsOn_factoryReset_of_ne hd (hother i), hfun]
    exact hs (hres ▸ hr) _ hled

/-- **The dedicated reset LEDs follow the cancel window and nothing else.** In
every run in which nothing but the application operates on them, and up to
the first reset, they are in blink mode while the window is open, each with
its timer running or an update waiting unless one was lost, and are dark
with their pins low while it is not. -/
theorem resetLEDs_show (cfg : Config) (hleds : cfg.stateLeds)
    {tr : List (Transition AppState Step)} {s : AppState} (r : (appTask cfg).Run tr s)
    (hother : ∀ t ∈ tr, ∀ i op, t.act ≠ .led (.factoryReset i) op)
    (hr : s.scheduledResets = 0) : ∀ led ∈ cfg.board.sFactoryResetLEDs,
      if s.mFunction = .factoryReset then
        (s.leds led).mode = .flash kBlinkRateMs kBlinkRateMs ∧
          ((∀ t ∈ tr, ¬ LosesUpdate led t.src t.act) →
            (s.leds led).mLedTimer.Armed ∨ ∃ e ∈ s.pending, e.Updates led)
      else (s.leds led).mode = .solid false ∧ (s.leds led).pin = false := by
  have h0 : ShowsWindow cfg (appTask cfg).init := by
    intro _ led hled
    have hstart : (appTask cfg).init.mFunction = .noneSelected :=
      congrArg Hold.mFunction Hold.ofApp_init
    obtain ⟨i, rfl⟩ := Board.eq_factoryReset hled
    have hthree : opsOn (.factoryReset i) [(.status, .init SYSTEM_STATE_LED),
        (.identify, .init IDENTIFY_STATE_LED), (.identify, .set false)] = [] := rfl
    rw [Lights.leds_init, initOps, if_pos hleds, if_pos (Board.hasFactoryResetLEDs_of_mem hled),
      opsOn_append, opsOn_append, hthree, opsOn_factoryResetOps hled,
      opsOn_factoryReset_statusOps, hstart]
    exact LEDWidget.mode_set
  have hshows : ShowsWindow cfg s := r.invariant_of (I := ShowsWindow cfg)
    (G := fun _ a => ∀ i op, a ≠ .led (.factoryReset i) op) h0
    (fun hs hG h => hs.step hleds hG h) hother
  intro led hled
  have hmode := hshows hr led hled
  split_ifs at hmode ⊢
  · exact ⟨hmode, fun hnone =>
      (alive_of_none_lost hleds r hnone).2 (LEDWidget.blinking_of_flash hmode)⟩
  · exact ⟨hmode, (phased_led_of_run r).pin_of_solid hmode⟩

/-- A window that opens and is left, its last toggle still to come. -/
theorem resetLEDs_show_cancelled : ∃ tr s, (appTask ⟨.two, true⟩).Run tr s ∧ tr.length = 12 ∧
    s.mFunction ≠ .factoryReset ∧
    ∀ led ∈ Board.two.sFactoryResetLEDs, (s.leds led).mode = .solid false ∧
      (s.leds led).pin = false := by
  obtain ⟨tr, s, r, hlen, hother, hr, hf⟩ := (appTask ⟨.two, true⟩).exists_run_of_exec
    [.buttons 1 1, .get, .dispatch, .functionTimer, .get, .dispatch, .buttons 0 1,
      .ledTimer (.factoryReset 1), .get, .dispatch, .get, .dispatch]
    (fun tr s => tr.length = 12 ∧ (∀ t ∈ tr, t.act.isLed = false) ∧ s.scheduledResets = 0 ∧
      s.mFunction ≠ .factoryReset) (by decide +kernel)
  have hshow := resetLEDs_show ⟨.two, true⟩ rfl r (fun t ht i op h => by
    have hled := hother t ht
    rw [h] at hled
    exact absurd hled (by simp [AppTask.Step.isLed])) hr
  refine ⟨tr, s, r, hlen, hf, fun led hled => ?_⟩
  have hled := hshow led hled
  rw [if_neg hf] at hled
  exact hled

end SoilSensor
