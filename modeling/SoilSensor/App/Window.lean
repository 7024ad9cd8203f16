import SoilSensor.App.Hold
/-!
# The cancel window shows

While the reset can still be cancelled the signal LEDs blink evenly: the
dedicated ones, or the status LED where a board has none. Only the branch
that opens the window starts this blink, and of all that runs until the
window is left only `UpdateStatusLED` sets the status LED to anything
else. It is called by the handler of connectivity events, which does not
ask for `mFunction`; on a board without dedicated LEDs that is the end of
the signal. `signalled_iff` says that nothing else is.
-/

namespace SoilSensor

/-- **The widgets that signal a factory reset.** -/
def Board.signalLEDs (board : Board) : List Led :=
  if board.hasFactoryResetLEDs then board.sFactoryResetLEDs else [.status]

/-- The widget blinks evenly at the rate of the window. -/
def LEDWidget.Signals (w : LEDWidget) : Prop :=
  w.mBlinkOnTimeMS = kBlinkRateMs ∧ w.mBlinkOffTimeMS = kBlinkRateMs

instance (w : LEDWidget) : Decidable w.Signals := inferInstanceAs (Decidable (_ ∧ _))

/-- **In the cancel window every signal LED says so.** -/
def Signalled (cfg : Config) (s : AppState) : Prop :=
  s.mFunction = .factoryReset → ∀ led ∈ cfg.board.signalLEDs, (s.leds led).Signals

instance {cfg : Config} {s : AppState} : Decidable (Signalled cfg s) :=
  inferInstanceAs (Decidable (_ → _))

/-- The events after which `ChipEventHandler` updates the status LED. -/
def DeviceEventType.isConnectivity : DeviceEventType → Bool
  | .kCHIPoBLEConnectionEstablished
  | .kCHIPoBLEConnectionClosed
  | .kCHIPoBLEAdvertisingChange
  | .kWiFiConnectivityChange
  | .kThreadStateChange => true
  | .kFactoryReset | .other => false

namespace AppTask.Step

/-- The step is a connectivity event. -/
def isConnectivity : Step → Bool
  | .chip type _ => type.isConnectivity
  | _ => false

/-- The step is an operation on a widget by other code. -/
def isLed : Step → Bool
  | .led _ _ => true
  | _ => false

end AppTask.Step

open AppTask

/-- The step is a connectivity event in the cancel window of a board whose
only signal is the status LED. -/
def Overwrites (cfg : Config) (s : AppState) (a : Step) : Prop :=
  cfg.board.hasFactoryResetLEDs = false ∧ s.mFunction = .factoryReset ∧ a.isConnectivity

instance {cfg : Config} {s : AppState} {a : Step} : Decidable (Overwrites cfg s a) :=
  inferInstanceAs (Decidable (_ ∧ _))

variable {cfg : Config} {tr : List (Transition AppState Step)} {s s' t : AppState} {a : Step}
variable {led : Led} {event : AppEvent}

/-! ## The signal LEDs -/

theorem Board.identify_notMem_signalLEDs {board : Board} : Led.identify ∉ board.signalLEDs := by
  cases board <;> decide

theorem Board.status_mem_signalLEDs {board : Board} :
    Led.status ∈ board.signalLEDs ↔ board.hasFactoryResetLEDs = false := by
  cases board <;> decide

theorem Board.nodup_sFactoryResetLEDs {board : Board} : board.sFactoryResetLEDs.Nodup := by
  cases board <;> decide

theorem LEDWidget.signals_blinkRate {w : LEDWidget} : (w.blinkRate kBlinkRateMs).Signals :=
  ⟨blink_onTime, blink_offTime⟩

/-- An update toggles the pin and not the times. -/
theorem LEDWidget.signals_updateState {w : LEDWidget} : w.updateState.Signals ↔ w.Signals := by
  simp [Signals]

/-- The wrapper leaves the other widgets. -/
theorem foldl_onLed_of_notMem {f : LEDWidget → LEDWidget} {leds : List Led} (h : led ∉ leds) :
    (leds.foldl (fun s l => onLed l f s) s).leds led = s.leds led := by
  induction leds generalizing s with
  | nil => rfl
  | cons l rest ih =>
    obtain ⟨hl, hrest⟩ := not_or.1 (fun hc => h (List.mem_cons.2 hc))
    rw [List.foldl_cons, ih hrest, onLed_leds_of_ne hl]

/-- And operates once on each of its own. -/
theorem foldl_onLed_of_mem {f : LEDWidget → LEDWidget} {leds : List Led} (hn : leds.Nodup)
    (h : led ∈ leds) : (leds.foldl (fun s l => onLed l f s) s).leds led = f (s.leds led) := by
  induction leds generalizing s with
  | nil => cases h
  | cons l rest ih =>
    obtain ⟨hl, hrest⟩ := List.nodup_cons.1 hn
    rw [List.foldl_cons]
    rcases List.mem_cons.1 h with rfl | h
    · rw [foldl_onLed_of_notMem hl]
      exact onLed_leds_self
    · have hne : led ≠ l := fun heq => hl (heq ▸ h)
      rw [ih hrest h, onLed_leds_of_ne hne]

/-! ## What a step does to the signal -/

/-- **The window opens with the signal on.** -/
theorem signalled_opened (hleds : cfg.stateLeds) (ht : event.type = .timer)
    (htrig : s.mFunctionTimerActive ∧ s.mFunction = .softwareUpdate) :
    ∀ led ∈ cfg.board.signalLEDs, ((functionTimerEventHandler cfg event s).leds led).Signals := by
  intro led hmem
  rw [functionTimerEventHandler, if_neg (not_not.2 ht), if_pos htrig]
  simp only [if_pos hleds]
  by_cases hb : cfg.board.hasFactoryResetLEDs
  · rw [Board.signalLEDs, if_pos hb] at hmem
    rw [if_pos hb, onFactoryResetLEDs, foldl_onLed_of_mem Board.nodup_sFactoryResetLEDs hmem]
    exact LEDWidget.signals_blinkRate
  · rw [Board.signalLEDs, if_neg hb, List.mem_singleton] at hmem
    rw [if_neg hb, hmem, onLed_leds_self]
    exact LEDWidget.signals_blinkRate

/-- A timer event that leaves the machine in the window opened it, or did
nothing. -/
theorem signalled_functionTimerEventHandler (hleds : cfg.stateLeds) (ht : event.type = .timer)
    (hs : Signalled cfg s) : Signalled cfg (functionTimerEventHandler cfg event s) := by
  by_cases htrig : s.mFunctionTimerActive ∧ s.mFunction = .softwareUpdate
  · exact fun _ => signalled_opened hleds ht htrig
  · rw [functionTimerEventHandler, if_neg (not_not.2 ht), if_neg htrig]
    split_ifs
    · exact nofun
    · exact hs

/-- A button event that leaves the machine in the window did nothing. -/
theorem signalled_functionHandler {pinNo : ℕ} {action : AppEventType} (hs : Signalled cfg s) :
    Signalled cfg (functionHandler cfg pinNo action s) := by
  unfold functionHandler
  split_ifs
  all_goals first | exact hs | exact nofun

/-- **A dispatch keeps the signal.** -/
theorem signalled_dispatchEvent (hleds : cfg.stateLeds) (hs : Signalled cfg s) :
    Signalled cfg (dispatchEvent cfg event s) := by
  cases event with
  | button => exact signalled_functionHandler hs
  | timer => exact signalled_functionTimerEventHandler hleds rfl hs
  | updateLedState l =>
    intro hf led hmem
    have hsig := hs hf led hmem
    by_cases hl : led = l
    · subst hl
      rw [dispatchEvent, onLed_leds_self]
      exact LEDWidget.signals_updateState.2 hsig
    · rw [dispatchEvent, onLed_leds_of_ne hl]
      exact hsig
  | other => exact hs

/-- **An update of the status LED is never the signal.** -/
theorem not_signals_updateStatusLED (hleds : cfg.stateLeds) :
    ¬ ((updateStatusLED cfg s).leds .status).Signals := by
  rw [updateStatusLED, if_pos hleds]
  split_ifs <;> rw [onLed_leds_self] <;> simp only [LEDWidget.Signals, LEDWidget.set_onTime,
    LEDWidget.blink_onTime] <;> exact fun h => absurd h.1 (by decide)

theorem updateStatusLED_leds_of_ne (hl : led ≠ .status) :
    (updateStatusLED cfg s).leds led = s.leds led := by
  unfold updateStatusLED
  split_ifs
  · exact onLed_leds_of_ne hl
  · exact onLed_leds_of_ne hl
  · exact onLed_leds_of_ne hl
  · rfl

/-- A connectivity event updates the status LED, and any other leaves the
widgets alone. -/
theorem chipEventHandler_spec {type : DeviceEventType} {mgr : ConnectivityMgr} :
    (chipEventHandler cfg type mgr s).mFunction = s.mFunction ∧
      if type.isConnectivity then
        ∃ t, t.leds = s.leds ∧ chipEventHandler cfg type mgr s = updateStatusLED cfg t
      else chipEventHandler cfg type mgr s = s := by
  refine ⟨congrArg Hold.mFunction Hold.ofApp_chipEventHandler, ?_⟩
  cases type with
  | kCHIPoBLEConnectionEstablished | kCHIPoBLEConnectionClosed | kCHIPoBLEAdvertisingChange =>
    exact ⟨{ s with sHaveBLEConnections := mgr.numBLEConnections != 0 }, rfl, rfl⟩
  | kWiFiConnectivityChange =>
    exact ⟨{ s with
      sIsNetworkProvisioned := mgr.isWiFiStationProvisioned
      sIsNetworkEnabled := mgr.isWiFiStationConnected }, rfl, rfl⟩
  | kThreadStateChange =>
    exact ⟨{ s with
      sIsNetworkProvisioned := mgr.isThreadProvisioned
      sIsNetworkEnabled := mgr.isThreadEnabled }, rfl, rfl⟩
  | kFactoryReset | other => rfl

/-- **A connectivity event loses the signal exactly where it is the status
LED's.** -/
theorem signalled_chip_iff {type : DeviceEventType} {mgr : ConnectivityMgr}
    (hleds : cfg.stateLeds) (hs : Signalled cfg s) :
    Signalled cfg (chipEventHandler cfg type mgr s) ↔ ¬ Overwrites cfg s (.chip type mgr) := by
  obtain ⟨hf, hspec⟩ := @chipEventHandler_spec cfg s type mgr
  by_cases hc : type.isConnectivity
  · rw [if_pos hc] at hspec
    obtain ⟨t, htl, ht⟩ := hspec
    by_cases hov : Overwrites cfg s (.chip type mgr)
    · refine iff_of_false (fun h => ?_) (not_not.2 hov)
      have hsig := h (hf.trans hov.2.1) .status (Board.status_mem_signalLEDs.2 hov.1)
      rw [ht] at hsig
      exact not_signals_updateStatusLED hleds hsig
    · refine iff_of_true (fun hfr led hmem => ?_) hov
      rw [hf] at hfr
      -- the window is open, so the board has dedicated LEDs and the status LED is none of them
      have hne : led ≠ .status := by
        rintro rfl
        exact hov ⟨Board.status_mem_signalLEDs.1 hmem, hfr, hc⟩
      rw [ht, updateStatusLED_leds_of_ne hne, htl]
      exact hs hfr led hmem
  · rw [if_neg hc] at hspec
    rw [hspec]
    exact iff_of_true hs fun hov => hc hov.2.2

theorem signalled_postEvent (hs : Signalled cfg s) : Signalled cfg (postEvent event s) := by
  unfold postEvent
  split <;> exact hs

/-- An operation on a widget that is no signal LED. -/
theorem signalled_onLed_of_notMem {f : LEDWidget → LEDWidget} (hs : Signalled cfg s)
    (h : led ∉ cfg.board.signalLEDs) : Signalled cfg (onLed led f s) := by
  intro hf l hmem
  have hne : l ≠ led := fun heq => h (heq ▸ hmem)
  rw [onLed_leds_of_ne hne]
  exact hs hf l hmem

/-- The expiry of a widget's timer leaves its times. -/
theorem signalled_ledTimer (hs : Signalled cfg s) :
    Signalled cfg (ledStateTimerHandler led
      (onLed led (fun w => { w with mLedTimer := w.mLedTimer.stop }) s)) := by
  have hstop : Signalled cfg (onLed led (fun w => { w with mLedTimer := w.mLedTimer.stop }) s) := by
    intro hf l hmem
    have hsig := hs hf l hmem
    by_cases hl : l = led
    · subst hl
      rw [onLed_leds_self]
      exact hsig
    · rw [onLed_leds_of_ne hl]
      exact hsig
  unfold ledStateTimerHandler
  split_ifs
  · exact signalled_postEvent hstop
  · exact hstop

/-- **A step loses the signal exactly if it overwrites it.** -/
theorem signalled_step_iff (hleds : cfg.stateLeds) (hs : Signalled cfg s) (ha : a.isLed = false)
    (hstep : AppTask.step cfg s a = some s') : Signalled cfg s' ↔ ¬ Overwrites cfg s a := by
  by_cases hchip : a.isConnectivity
  · cases a with
    | chip type mgr =>
      rw [← Option.some.inj hstep]
      exact signalled_chip_iff hleds hs
    | _ => exact absurd hchip Bool.false_ne_true
  · refine iff_of_true ?_ fun hov => hchip hov.2.2
    cases a with
    | buttons buttonState hasChanged =>
      obtain ⟨held, rfl, -⟩ := of_step_buttons hstep
      have hheld : Signalled cfg { s with buttonHeld := held } := hs
      unfold buttonEventHandler
      split_ifs
      · exact signalled_postEvent hheld
      · exact signalled_postEvent hheld
      · exact hheld
    | functionTimer =>
      obtain ⟨-, rfl⟩ := of_step_functionTimer hstep
      exact signalled_postEvent hs
    | ledTimer led =>
      obtain ⟨-, rfl⟩ := of_step_ledTimer hstep
      exact signalled_ledTimer hs
    | get =>
      obtain ⟨event, queue, -, -, rfl⟩ := of_step_get hstep
      exact hs
    | dispatch =>
      obtain ⟨event, -, rfl⟩ := of_step_dispatch hstep
      exact signalled_dispatchEvent hleds hs
    | chip type mgr =>
      rw [← Option.some.inj hstep]
      exact (signalled_chip_iff hleds hs).2 fun hov => hchip hov.2.2
    | identifyStart =>
      rw [← Option.some.inj hstep, onIdentifyStart, if_pos hleds]
      exact signalled_onLed_of_notMem hs Board.identify_notMem_signalLEDs
    | identifyStop =>
      rw [← Option.some.inj hstep, onIdentifyStop, if_pos hleds]
      exact signalled_onLed_of_notMem hs Board.identify_notMem_signalLEDs
    | led => exact absurd ha (by simp [AppTask.Step.isLed])
    | post => rw [← Option.some.inj hstep]; exact signalled_postEvent hs

/-! ## Runs -/

/-- **The cancel window is visible**: in a run in which nothing but the
application operates on its widgets, every state shows its window exactly
when no connectivity event is handled in the window of a board without
dedicated LEDs. -/
theorem signalled_iff (cfg : Config) (hleds : cfg.stateLeds)
    {tr : List (Transition AppState Step)} {s : AppState} (r : (appTask cfg).Run tr s)
    (hled : ∀ t ∈ tr, t.act.isLed = false) :
    (∀ x ∈ (appTask cfg).visited tr, Signalled cfg x) ↔
      ∀ t ∈ tr, ¬ Overwrites cfg t.src t.act := by
  have h0 : Signalled cfg (appTask cfg).init := by
    intro hf
    have hstart : (appTask cfg).init.mFunction = .noneSelected :=
      congrArg Hold.mFunction Hold.ofApp_init
    rw [hstart] at hf
    cases hf
  refine r.forall_visited_iff (I := fun _ => True) (D := fun _ a => a.isLed = false)
    (C := fun s a => ¬ Overwrites cfg s a) trivial h0 (fun _ _ => trivial) ?_ hled
  exact fun _ hs ha hstep => signalled_step_iff hleds hs ha hstep

/-- **A connectivity event hides the window**: a Bluetooth connection opens
on a board without dedicated LEDs, and the status LED shows that. -/
theorem not_signalled_of_connection :
    ¬ ∀ (cfg : Config), cfg.stateLeds → ∀ (tr : List (Transition AppState Step)) (s : AppState),
      (appTask cfg).Run tr s → s.dropped = 0 → (∀ t ∈ tr, t.act.isLed = false) →
        ∀ x ∈ (appTask cfg).visited tr, Signalled cfg x := by
  intro hall
  obtain ⟨tr, s, r, hdrop, hled, hdark⟩ := (appTask ⟨.none, true⟩).exists_run_of_exec
    [.buttons 1 1, .get, .dispatch, .functionTimer, .get, .dispatch,
      .chip .kCHIPoBLEConnectionEstablished ⟨1, false, false, false, false⟩]
    (fun tr s => s.dropped = 0 ∧ (∀ t ∈ tr, t.act.isLed = false) ∧ ¬ Signalled ⟨.none, true⟩ s)
    (by decide +kernel)
  exact hdark (hall _ rfl tr s r hdrop hled s r.mem_visited)

/-- The condition is met by the same run with dedicated LEDs. -/
theorem signalled_of_dedicated : ∃ tr s, (appTask ⟨.two, true⟩).Run tr s ∧
    s.mFunction = .factoryReset ∧
    ∀ x ∈ (appTask ⟨.two, true⟩).visited tr, Signalled ⟨.two, true⟩ x := by
  obtain ⟨tr, s, r, hf, hled, hc⟩ := (appTask ⟨.two, true⟩).exists_run_of_exec
    [.buttons 1 1, .get, .dispatch, .functionTimer, .get, .dispatch,
      .chip .kCHIPoBLEConnectionEstablished ⟨1, false, false, false, false⟩]
    (fun tr s => s.mFunction = .factoryReset ∧ (∀ t ∈ tr, t.act.isLed = false) ∧
      ∀ t ∈ tr, ¬ Overwrites ⟨.two, true⟩ t.src t.act)
    (by decide +kernel)
  exact ⟨tr, s, r, hf, (signalled_iff _ rfl r hled).2 hc⟩

end SoilSensor
