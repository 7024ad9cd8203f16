import SoilSensor.App.Model.Task
import SoilSensor.Led.Lamp
/-!
# What a step does to the widgets

The handlers touch the widgets through their public operations only.
`stepOps` lists these, step by step and in order, and `leds_step` says that
a step does to the widgets what its list says, and nothing else; the expiry
of a widget's timer apart, which stops the timer. The rest of a handler is
then of no concern to what is said of the widgets.
-/

namespace SoilSensor

/-- The event updates the widget. -/
def AppEvent.Updates (led : Led) : AppEvent → Prop
  | .updateLedState ledWidget _ => ledWidget = led
  | _ => False

instance {led : Led} {event : AppEvent} : Decidable (event.Updates led) := by
  cases event <;> unfold AppEvent.Updates <;> infer_instance

namespace AppTask

variable {cfg : Config} {s s' t : AppState} {a : Step} {led l : Led} {op : LedOp}
variable {ops ops' : List (Led × LedOp)} {leds : Led → LEDWidget} {event : AppEvent}

/-! ## Lists of operations -/

/-- **The widgets, operated on in turn.** -/
def operate (ops : List (Led × LedOp)) (leds : Led → LEDWidget) : Led → LEDWidget :=
  ops.foldl (fun leds p => Function.update leds p.1 (p.2.run (leds p.1))) leds

/-- The operations on one of them. -/
def opsOn (led : Led) (ops : List (Led × LedOp)) : List LedOp :=
  (ops.filter fun p => p.1 = led).map Prod.snd

@[simp] theorem operate_append : operate (ops ++ ops') leds = operate ops' (operate ops leds) :=
  List.foldl_append

theorem mem_opsOn : op ∈ opsOn led ops ↔ (led, op) ∈ ops := by
  simp only [opsOn, List.mem_map, List.mem_filter, decide_eq_true_eq]
  constructor
  · rintro ⟨⟨l, o⟩, ⟨hmem, rfl⟩, rfl⟩
    exact hmem
  · intro hmem
    exact ⟨(led, op), ⟨hmem, rfl⟩, rfl⟩

theorem opsOn_append : opsOn led (ops ++ ops') = opsOn led ops ++ opsOn led ops' := by
  rw [opsOn, List.filter_append, List.map_append]
  rfl

/-- **Each widget sees its own operations.** -/
theorem operate_apply : operate ops leds led = LedOp.runAll (opsOn led ops) (leds led) := by
  induction ops generalizing leds with
  | nil => rfl
  | cons p ops ih =>
    obtain ⟨l, op⟩ := p
    change operate ops (Function.update leds l (op.run (leds l))) led = _
    rw [ih]
    by_cases hl : l = led
    · subst hl
      rw [Function.update_self, opsOn, opsOn, List.filter_cons_of_pos (by simp)]
      rfl
    · rw [Function.update_of_ne (Ne.symm hl), opsOn, opsOn, List.filter_cons_of_neg (by simp [hl])]

/-! ## The operations of the handlers -/

/-- The operation on each of `sFactoryResetLEDs`. -/
def factoryResetOps (cfg : Config) (op : LedOp) : List (Led × LedOp) :=
  cfg.board.sFactoryResetLEDs.map fun led => (led, op)

/-- `UpdateStatusLED`. -/
def statusOps (cfg : Config) (s : AppState) : List (Led × LedOp) :=
  if cfg.stateLeds then
    if s.sIsNetworkProvisioned && s.sIsNetworkEnabled then [(.status, .set true)]
    else if s.sHaveBLEConnections then
      [(.status, .blink unprovisionedOnMs unprovisionedOffMs)]
    else [(.status, .blink provisionedOnMs provisionedOffMs)]
  else []

/-- The start of the cancel window. -/
def cancelWindowOps (cfg : Config) : List (Led × LedOp) :=
  if cfg.stateLeds then
    (.status, .set false) ::
      if cfg.board.hasFactoryResetLEDs then
        factoryResetOps cfg (.set false) ++ factoryResetOps cfg (.blink kBlinkRateMs kBlinkRateMs)
      else [(.status, .blink kBlinkRateMs kBlinkRateMs)]
  else []

/-- And its end by a release. -/
def cancelOps (cfg : Config) (s : AppState) : List (Led × LedOp) :=
  if cfg.stateLeds then
    (if cfg.board.hasFactoryResetLEDs then factoryResetOps cfg (.set false)
      else [(.status, .set false)]) ++ statusOps cfg s
  else []

/-- The timeout of a pending trigger, which begins the cancel window. -/
def Triggers (s : AppState) : Prop := s.mFunctionTimerActive ∧ s.mFunction = .softwareUpdate

/-- The release of the function button in the cancel window. -/
def Cancels (pinNo : ℕ) (action : AppEventType) (s : AppState) : Prop :=
  pinNo = FUNCTION_BUTTON ∧ action ≠ .buttonPushed ∧ s.mFunctionTimerActive ∧
    s.mFunction = .factoryReset

instance : Decidable (Triggers s) := inferInstanceAs (Decidable (_ ∧ _))

instance {pinNo : ℕ} {action : AppEventType} : Decidable (Cancels pinNo action s) :=
  inferInstanceAs (Decidable (_ ∧ _))

/-- The operations of an event's handler. -/
def dispatchOps (cfg : Config) (s : AppState) : AppEvent → List (Led × LedOp)
  | .button pinNo action => if Cancels pinNo action s then cancelOps cfg s else []
  | .timer _ => if Triggers s then cancelWindowOps cfg else []
  | .updateLedState led _ => [(led, .updateState)]
  | .other _ => []

/-- The state with the flags of connectivity as a platform event has them
evaluated, if it has. -/
def evaluate (type : DeviceEventType) (mgr : ConnectivityMgr) (s : AppState) : Option AppState :=
  match type with
  | .kCHIPoBLEConnectionEstablished | .kCHIPoBLEConnectionClosed | .kCHIPoBLEAdvertisingChange =>
    some { s with sHaveBLEConnections := mgr.numBLEConnections != 0 }
  | .kWiFiConnectivityChange =>
    some { s with
      sIsNetworkProvisioned := mgr.isWiFiStationProvisioned
      sIsNetworkEnabled := mgr.isWiFiStationConnected }
  | .kThreadStateChange =>
    some { s with
      sIsNetworkProvisioned := mgr.isThreadProvisioned
      sIsNetworkEnabled := mgr.isThreadEnabled }
  | _ => none

/-- **The operations of a step**, in order. -/
def stepOps (cfg : Config) (s : AppState) : Step → List (Led × LedOp)
  | .dispatch => s.taken.elim [] (dispatchOps cfg s)
  | .chip type mgr => (evaluate type mgr s).elim [] (statusOps cfg)
  | .identifyStart =>
    if cfg.stateLeds then [(.identify, .blink identifyBlinkMs identifyBlinkMs)] else []
  | .identifyStop => if cfg.stateLeds then [(.identify, .set false)] else []
  | .led led op => [(led, op)]
  | _ => []

/-- The operations of `AppTask::Init`. -/
def initOps (cfg : Config) : List (Led × LedOp) :=
  if cfg.stateLeds then
    [(.status, .init SYSTEM_STATE_LED), (.identify, .init IDENTIFY_STATE_LED),
      (.identify, .set false)] ++
    (if cfg.board.hasFactoryResetLEDs then factoryResetOps cfg (.set false) else []) ++
    statusOps cfg (boot cfg)
  else []

/-- The widgets a board has. -/
def boardLEDs (cfg : Config) : List Led := [.status, .identify] ++ cfg.board.sFactoryResetLEDs

/-- The step dispatches an update for the widget. -/
def DispatchesUpdate (led : Led) (s : AppState) (a : Step) : Prop :=
  a = .dispatch ∧ ∃ event ∈ s.taken, event.Updates led

instance : Decidable (DispatchesUpdate led s a) := inferInstanceAs (Decidable (_ ∧ _))

/-- The state the platform event of a step has left, before its
operations. -/
def evaluated (s : AppState) : Step → AppState
  | .chip type mgr => (evaluate type mgr s).getD s
  | _ => s

/-! ## Which operations these are -/

/-- **The operations of the handlers** are on the board's widgets, and none
of them updates. -/
def Handled (cfg : Config) (ops : List (Led × LedOp)) : Prop :=
  ∀ p ∈ ops, p.1 ∈ boardLEDs cfg ∧ p.2 ≠ .updateState

theorem Handled.nil : Handled cfg [] := fun _ hp => absurd hp List.not_mem_nil

theorem Handled.append (h : Handled cfg ops) (h' : Handled cfg ops') : Handled cfg (ops ++ ops') :=
  fun p hp => (List.mem_append.1 hp).elim (h p) (h' p)

theorem handled_singleton (hled : led = .status ∨ led = .identify) (hop : op ≠ .updateState) :
    Handled cfg [(led, op)] := by
  intro p hp
  rw [List.mem_singleton.1 hp]
  refine ⟨?_, hop⟩
  rcases hled with rfl | rfl <;> simp [boardLEDs]

theorem handled_factoryResetOps (hop : op ≠ .updateState) :
    Handled cfg (factoryResetOps cfg op) := by
  intro p hp
  obtain ⟨led, hled, rfl⟩ := List.mem_map.1 hp
  exact ⟨List.mem_append_right _ hled, hop⟩

theorem handled_statusOps : Handled cfg (statusOps cfg s) := by
  unfold statusOps
  split_ifs
  · exact handled_singleton (Or.inl rfl) LedOp.noConfusion
  · exact handled_singleton (Or.inl rfl) LedOp.noConfusion
  · exact handled_singleton (Or.inl rfl) LedOp.noConfusion
  · exact Handled.nil

theorem handled_cancelWindowOps : Handled cfg (cancelWindowOps cfg) := by
  have hset : Handled cfg [(.status, .set false)] :=
    handled_singleton (Or.inl rfl) LedOp.noConfusion
  unfold cancelWindowOps
  split_ifs
  · exact hset.append ((handled_factoryResetOps LedOp.noConfusion).append
      (handled_factoryResetOps LedOp.noConfusion))
  · exact hset.append (handled_singleton (Or.inl rfl) LedOp.noConfusion)
  · exact Handled.nil

theorem handled_cancelOps : Handled cfg (cancelOps cfg s) := by
  unfold cancelOps
  split_ifs
  · exact (handled_factoryResetOps LedOp.noConfusion).append handled_statusOps
  · exact (handled_singleton (Or.inl rfl) LedOp.noConfusion).append handled_statusOps
  · exact Handled.nil

theorem handled_initOps : Handled cfg (initOps cfg) := by
  have hstatus : Handled cfg [(.status, .init SYSTEM_STATE_LED)] :=
    handled_singleton (Or.inl rfl) LedOp.noConfusion
  have hidentify : Handled cfg [(.identify, .init IDENTIFY_STATE_LED)] :=
    handled_singleton (Or.inr rfl) LedOp.noConfusion
  have hset : Handled cfg [(.identify, .set false)] :=
    handled_singleton (Or.inr rfl) LedOp.noConfusion
  have hthree := hstatus.append (hidentify.append hset)
  unfold initOps
  split_ifs
  · exact (hthree.append (handled_factoryResetOps LedOp.noConfusion)).append handled_statusOps
  · exact (hthree.append Handled.nil).append handled_statusOps
  · exact Handled.nil

/-- A widget the board does not have is not operated on. -/
theorem Handled.opsOn_eq_nil (h : Handled cfg ops) (hled : led ∉ boardLEDs cfg) :
    opsOn led ops = [] := by
  refine List.eq_nil_iff_forall_not_mem.2 fun op hop => ?_
  exact hled (h _ (mem_opsOn.1 hop)).1

/-- **An operation of a step** is some other code's, the update an event
asks for, or a handler's. -/
theorem mem_stepOps (h : (led, op) ∈ stepOps cfg s a) :
    a = .led led op ∨ (DispatchesUpdate led s a ∧ op = .updateState) ∨
      (led ∈ boardLEDs cfg ∧ op ≠ .updateState) := by
  have hhandled : ∀ {ops}, Handled cfg ops → (led, op) ∈ ops →
      a = .led led op ∨ (DispatchesUpdate led s a ∧ op = .updateState) ∨
        (led ∈ boardLEDs cfg ∧ op ≠ .updateState) :=
    fun hops hmem => Or.inr (Or.inr (hops _ hmem))
  cases a with
  | dispatch =>
    cases htaken : s.taken with
    | none => simp [stepOps, htaken] at h
    | some event =>
      simp only [stepOps, htaken, Option.elim_some] at h
      cases event with
      | button pinNo action =>
        simp only [dispatchOps] at h
        split_ifs at h
        · exact hhandled handled_cancelOps h
        · cases h
      | timer =>
        simp only [dispatchOps] at h
        split_ifs at h
        · exact hhandled handled_cancelWindowOps h
        · cases h
      | updateLedState ledWidget n =>
        obtain ⟨rfl, rfl⟩ := Prod.mk.inj (List.mem_singleton.1 h)
        exact Or.inr (Or.inl ⟨⟨rfl, _, htaken, rfl⟩, rfl⟩)
      | other => cases h
  | chip type mgr =>
    simp only [stepOps] at h
    cases hev : evaluate type mgr s with
    | none => simp [hev] at h
    | some t =>
      rw [hev] at h
      exact hhandled handled_statusOps h
  | identifyStart =>
    simp only [stepOps] at h
    split_ifs at h
    · exact hhandled (handled_singleton (Or.inr rfl) LedOp.noConfusion) h
    · cases h
  | identifyStop =>
    simp only [stepOps] at h
    split_ifs at h
    · exact hhandled (handled_singleton (Or.inr rfl) LedOp.noConfusion) h
    · cases h
  | led ledWidget o =>
    obtain ⟨rfl, rfl⟩ := Prod.mk.inj (List.mem_singleton.1 h)
    exact Or.inl rfl
  | _ => cases h

/-! ## And nothing else -/

end AppTask

/-- **The part of the state the lights live in.** -/
structure Lights where
  leds : Led → LEDWidget
  callback : Bool
  provisioned : Bool
  enabled : Bool
  haveBLEConnections : Bool

namespace Lights

open AppTask

/-- The lights of the application. -/
def ofApp (s : AppState) : Lights where
  leds := s.leds
  callback := s.sStateUpdateCallback
  provisioned := s.sIsNetworkProvisioned
  enabled := s.sIsNetworkEnabled
  haveBLEConnections := s.sHaveBLEConnections

/-- The widgets operated on. -/
def operated (ops : List (Led × LedOp)) (l : Lights) : Lights := { l with leds := operate ops l.leds }

variable {cfg : Config} {s s' : AppState} {a : Step} {led : Led} {op : LedOp}
variable {ops ops' : List (Led × LedOp)} {l : Lights} {event : AppEvent}

@[simp] theorem operated_operated : (l.operated ops).operated ops' = l.operated (ops ++ ops') := by
  simp only [operated, operate_append]

@[simp] theorem ofApp_postEvent : ofApp (postEvent event s) = ofApp s := by
  unfold postEvent
  split <;> rfl

@[simp] theorem ofApp_onLed : ofApp (onLed led op.run s) = (ofApp s).operated [(led, op)] := rfl

@[simp] theorem ofApp_setFunction {function : FunctionEvent} :
    ofApp (setFunction function s) = ofApp s := rfl

@[simp] theorem ofApp_cancelTimer : ofApp (cancelTimer s) = ofApp s := rfl

@[simp] theorem ofApp_onFactoryResetLEDs :
    ofApp (onFactoryResetLEDs cfg op.run s) = (ofApp s).operated (factoryResetOps cfg op) := by
  unfold onFactoryResetLEDs factoryResetOps
  induction cfg.board.sFactoryResetLEDs generalizing s with
  | nil => rfl
  | cons led rest ih => exact ih

@[simp] theorem ofApp_updateStatusLED :
    ofApp (updateStatusLED cfg s) = (ofApp s).operated (statusOps cfg s) := by
  unfold updateStatusLED statusOps
  split_ifs <;> rfl

/-- The operations of `UpdateStatusLED` follow from the flags. -/
theorem statusOps_congr (h : (ofApp s').provisioned = (ofApp s).provisioned ∧
    (ofApp s').enabled = (ofApp s).enabled ∧
    (ofApp s').haveBLEConnections = (ofApp s).haveBLEConnections) :
    statusOps cfg s' = statusOps cfg s := by
  obtain ⟨hprov, hen, hble⟩ := h
  change s'.sIsNetworkProvisioned = s.sIsNetworkProvisioned at hprov
  change s'.sIsNetworkEnabled = s.sIsNetworkEnabled at hen
  change s'.sHaveBLEConnections = s.sHaveBLEConnections at hble
  simp only [statusOps, hprov, hen, hble]

theorem ofApp_functionTimerEventHandler {x : Expiry} :
    ofApp (functionTimerEventHandler cfg (.timer x) s) =
      (ofApp s).operated (dispatchOps cfg s (.timer x)) := by
  unfold functionTimerEventHandler dispatchOps
  simp only [AppEvent.type, ne_eq, not_true_eq_false, if_false]
  by_cases htrig : s.mFunctionTimerActive ∧ s.mFunction = .softwareUpdate
  · rw [if_pos htrig, if_pos (show Triggers s from htrig), cancelWindowOps]
    split_ifs
    · change ofApp (onFactoryResetLEDs cfg (LedOp.blink kBlinkRateMs kBlinkRateMs).run
        (onFactoryResetLEDs cfg (LedOp.set false).run (onLed .status (LedOp.set false).run _))) = _
      rw [ofApp_onFactoryResetLEDs, ofApp_onFactoryResetLEDs, ofApp_onLed, operated_operated,
        operated_operated]
      rfl
    · rfl
    · rfl
  · rw [if_neg htrig, if_neg (show ¬ Triggers s from htrig)]
    split_ifs <;> rfl

theorem ofApp_functionHandler {pinNo : ℕ} {action : AppEventType} :
    ofApp (functionHandler cfg pinNo action s) =
      (ofApp s).operated (dispatchOps cfg s (.button pinNo action)) := by
  simp only [functionHandler, dispatchOps]
  by_cases hcancel : Cancels pinNo action s
  · obtain ⟨rfl, hact, hactive, hreset⟩ := hcancel
    have hnot : ¬ (s.mFunctionTimerActive = true ∧ s.mFunction = .softwareUpdate) := by
      rw [hreset]
      exact fun h => absurd h.2 (by decide)
    rw [if_neg (not_not.2 rfl), if_neg hact, if_neg hnot, if_pos ⟨hactive, hreset⟩,
      if_pos (show Cancels _ _ s from ⟨rfl, hact, hactive, hreset⟩), cancelOps]
    by_cases hleds : cfg.stateLeds
    · rw [if_pos hleds, if_pos hleds, ofApp_setFunction, ofApp_cancelTimer, ofApp_updateStatusLED]
      split_ifs
      · have hflags : statusOps cfg (onFactoryResetLEDs cfg (LedOp.set false).run s) =
            statusOps cfg s := by
          refine statusOps_congr ?_
          rw [ofApp_onFactoryResetLEDs]
          exact ⟨rfl, rfl, rfl⟩
        change ((ofApp (onFactoryResetLEDs cfg (LedOp.set false).run s)).operated
          (statusOps cfg (onFactoryResetLEDs cfg (LedOp.set false).run s))) = _
        rw [hflags, ofApp_onFactoryResetLEDs, operated_operated]
      · rfl
    · rw [if_neg hleds, if_neg hleds]
      rfl
  · rw [if_neg hcancel]
    split_ifs with hpin hact hpush hupdate hreset <;> try rfl
    · exact absurd ⟨not_not.1 hpin, hact, hreset⟩ hcancel
    · exact absurd ⟨not_not.1 hpin, hact, hreset⟩ hcancel

theorem ofApp_dispatchEvent :
    ofApp (dispatchEvent cfg event s) = (ofApp s).operated (dispatchOps cfg s event) := by
  cases event with
  | button => exact ofApp_functionHandler
  | timer => exact ofApp_functionTimerEventHandler
  | updateLedState => rfl
  | other => rfl

theorem ofApp_chipEventHandler {type : DeviceEventType} {mgr : ConnectivityMgr} :
    ofApp (chipEventHandler cfg type mgr s) = (ofApp (evaluated s (.chip type mgr))).operated
      (stepOps cfg s (.chip type mgr)) := by
  cases type with
  | kFactoryReset => rfl
  | other => rfl
  | _ => exact ofApp_updateStatusLED

/-- **A step operates on the widgets as its list says**, and touches
nothing of the lights besides but the flags a platform event evaluates. -/
theorem ofApp_step (ha : ∀ led, a ≠ .ledTimer led) (hstep : AppTask.step cfg s a = some s') :
    ofApp s' = (ofApp (evaluated s a)).operated (stepOps cfg s a) := by
  cases a with
  | buttons buttonState hasChanged =>
    obtain ⟨held, rfl, -⟩ := of_step_buttons hstep
    unfold buttonEventHandler
    split_ifs
    · exact ofApp_postEvent
    · exact ofApp_postEvent
    · rfl
  | functionTimer =>
    obtain ⟨-, rfl⟩ := of_step_functionTimer hstep
    exact ofApp_postEvent
  | ledTimer led => exact absurd rfl (ha led)
  | get =>
    obtain ⟨event, queue, -, -, rfl⟩ := of_step_get hstep
    rfl
  | dispatch =>
    obtain ⟨event, htaken, rfl⟩ := of_step_dispatch hstep
    rw [ofApp_dispatchEvent, stepOps, htaken]
    rfl
  | chip =>
    rw [← Option.some.inj hstep]
    exact ofApp_chipEventHandler
  | identifyStart =>
    rw [← Option.some.inj hstep]
    unfold onIdentifyStart stepOps
    split_ifs <;> rfl
  | identifyStop =>
    rw [← Option.some.inj hstep]
    unfold onIdentifyStop stepOps
    split_ifs <;> rfl
  | led led op => rw [← Option.some.inj hstep]; rfl
  | post =>
    rw [← Option.some.inj hstep]
    exact ofApp_postEvent

theorem leds_evaluated : (evaluated s a).leds = s.leds := by
  cases a with
  | chip type mgr => cases type <;> rfl
  | _ => rfl

/-- **So each widget is operated on.** -/
theorem leds_step (ha : ∀ led, a ≠ .ledTimer led) (hstep : AppTask.step cfg s a = some s') :
    s'.leds led = LedOp.runAll (opsOn led (stepOps cfg s a)) (s.leds led) := by
  have hleds : s'.leds = operate (stepOps cfg s a) (evaluated s a).leds :=
    congrArg Lights.leds (ofApp_step ha hstep)
  rw [hleds, operate_apply, leds_evaluated]

/-- **The expiry of a widget's timer stops it**, and posts an event. -/
theorem ofApp_ledTimer (hstep : AppTask.step cfg s (.ledTimer led) = some s') :
    (s.leds led).mLedTimer.Armed ∧
      ofApp s' = { ofApp s with leds := Function.update s.leds led (s.leds led).expire } := by
  obtain ⟨harm, rfl⟩ := of_step_ledTimer hstep
  refine ⟨harm, ?_⟩
  unfold ledStateTimerHandler ledStateUpdateHandler
  split_ifs
  · rw [ofApp_postEvent]
    rfl
  · rfl

theorem leds_ledTimer (hstep : AppTask.step cfg s (.ledTimer led) = some s') :
    s'.leds = Function.update s.leds led (s.leds led).expire :=
  congrArg Lights.leds (ofApp_ledTimer hstep).2

/-- `AppTask::Init` operates on the widgets of static storage, and installs
the callback. -/
theorem ofApp_init : ofApp (appTask cfg).init =
    { (ofApp (boot cfg)).operated (initOps cfg) with callback := cfg.stateLeds } := by
  have hstop : ∀ s, ofApp (functionTimerInit s) = ofApp s := fun _ => rfl
  have hfactory : ∀ s, ofApp (onFactoryResetLEDs cfg (.set false) s) =
      (ofApp s).operated (factoryResetOps cfg (.set false)) :=
    fun s => @ofApp_onFactoryResetLEDs cfg s (.set false)
  simp only [appTask, AppTask.init, initOps]
  rw [hstop]
  by_cases hleds : cfg.stateLeds
  · rw [if_pos hleds, if_pos hleds, identifyHandlerInit, if_pos hleds, ofApp_updateStatusLED]
    split_ifs
    · rw [hfactory, statusOps_congr (s := boot cfg) (by rw [hfactory]; exact ⟨rfl, rfl, rfl⟩)]
      simp only [operated, operate_append, hleds]
      rfl
    · simp only [List.append_nil, operated, operate_append, hleds]
      rfl
  · rw [if_neg hleds, if_neg hleds]
    simp only [Bool.not_eq_true] at hleds
    rw [hleds]
    rfl

theorem leds_init : (appTask cfg).init.leds led =
    LedOp.runAll (opsOn led (initOps cfg)) ((boot cfg).leds led) := by
  have hleds : (appTask cfg).init.leds = operate (initOps cfg) (boot cfg).leds :=
    congrArg Lights.leds ofApp_init
  rw [hleds, operate_apply]

end Lights

end SoilSensor
