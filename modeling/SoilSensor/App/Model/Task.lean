import SoilSensor.Common.Machine
import SoilSensor.Common.Mailbox
import SoilSensor.Led.Model.Widget
import SoilSensor.App.Model.Event
import Mathlib.Logic.Function.Basic
/-!
# Model — the application task

`AppTask.cpp` with the wrapper of `LEDUtil.h` and the callbacks of
`IdentifyHandler.cpp`. The handlers are state transformers under the
source's names, and `step` says what may happen next: a button interrupt,
the expiry of a timer, the task's loop taking an event off the queue or
dispatching the one it took, a platform event, an identify callback, an
operation on a widget, or a post by somebody else.

Taking an event and dispatching it are two steps, as they are in
`AppTaskMain`: an interrupt between them finds the slot already free.
-/

namespace SoilSensor

/-- `kFactoryResetTriggerTimeout`, in milliseconds. -/
def kFactoryResetTriggerTimeout : UInt32 := 3000

/-- `kFactoryResetCancelWindowTimeout`, in milliseconds. -/
def kFactoryResetCancelWindowTimeout : UInt32 := 3000

/-- `kAppEventQueueSize`. -/
def kAppEventQueueSize : ℕ := 10

/-- `LedConsts::kBlinkRateMs`. -/
def kBlinkRateMs : UInt32 := 500

/-- `LedConsts::StatusLed::Provisioned::kOnMs` and `kOffMs`. -/
def provisionedOnMs : UInt32 := 50

@[inherit_doc provisionedOnMs] def provisionedOffMs : UInt32 := 950

/-- `LedConsts::StatusLed::Unprovisioned::kOnMs` and `kOffMs`. -/
def unprovisionedOnMs : UInt32 := 100

@[inherit_doc unprovisionedOnMs] def unprovisionedOffMs : UInt32 := 100

/-- `kBlinkOnMs` and `kBlinkOffMs` of `IdentifyHandler.cpp`. -/
def identifyBlinkMs : UInt32 := 250

/-- The state the application task works on: the members of `AppTask`, the
kernel objects and widgets of its file, the event its loop has taken and
not yet dispatched, and the connectivity flags. The last three fields are
the surroundings: the position of the button, the calls of
`Server::ScheduleFactoryReset` so far, and the events `PostEvent` has found
no room for. -/
structure AppState where
  mFunction : FunctionEvent
  mFunctionTimerActive : Bool
  sFunctionTimer : OneShot UInt32
  sAppEventQueue : Mailbox AppEvent kAppEventQueueSize
  taken : Option AppEvent
  leds : Led → LEDWidget
  sStateUpdateCallback : Bool
  sIsNetworkProvisioned : Bool
  sIsNetworkEnabled : Bool
  sHaveBLEConnections : Bool
  buttonHeld : Bool
  scheduledResets : ℕ
  dropped : ℕ

namespace AppTask

/-- `PostEvent`: a put without waiting, and a warning where it fails. -/
def postEvent (event : AppEvent) (s : AppState) : AppState :=
  match s.sAppEventQueue.put? event with
  | some queue => { s with sAppEventQueue := queue }
  | none => { s with dropped := s.dropped + 1 }

/-- `StartTimer`. -/
def startTimer (timeoutInMs : UInt32) (s : AppState) : AppState :=
  { s with mFunctionTimerActive := true, sFunctionTimer := s.sFunctionTimer.start timeoutInMs }

/-- `CancelTimer`. -/
def cancelTimer (s : AppState) : AppState :=
  { s with mFunctionTimerActive := false, sFunctionTimer := s.sFunctionTimer.stop }

/-- `mFunction = function`. -/
def setFunction (function : FunctionEvent) (s : AppState) : AppState :=
  { s with mFunction := function }

/-- An operation on one widget. -/
def onLed (led : Led) (f : LEDWidget → LEDWidget) (s : AppState) : AppState :=
  { s with leds := Function.update s.leds led (f (s.leds led)) }

@[simp] theorem onLed_leds_self {led : Led} {f : LEDWidget → LEDWidget} {s : AppState} :
    (onLed led f s).leds led = f (s.leds led) := Function.update_self ..

theorem onLed_leds_of_ne {led l : Led} {f : LEDWidget → LEDWidget} {s : AppState} (h : l ≠ led) :
    (onLed led f s).leds l = s.leds l := Function.update_of_ne h _ _

/-- `FactoryResetLEDsWrapper`: the operation on each of its widgets in
turn. -/
def onFactoryResetLEDs (cfg : Config) (f : LEDWidget → LEDWidget) (s : AppState) : AppState :=
  cfg.board.sFactoryResetLEDs.foldl (fun s led => onLed led f s) s

/-- `Server::GetInstance().ScheduleFactoryReset()`. -/
def scheduleFactoryReset (s : AppState) : AppState :=
  { s with scheduledResets := s.scheduledResets + 1 }

/-- `UpdateStatusLED`. -/
def updateStatusLED (cfg : Config) (s : AppState) : AppState :=
  if cfg.stateLeds then
    if s.sIsNetworkProvisioned && s.sIsNetworkEnabled then
      onLed .status (.set true) s
    else if s.sHaveBLEConnections then
      onLed .status (.blink unprovisionedOnMs unprovisionedOffMs) s
    else
      onLed .status (.blink provisionedOnMs provisionedOffMs) s
  else s

/-- `FunctionTimerEventHandler`. -/
def functionTimerEventHandler (cfg : Config) (event : AppEvent) (s : AppState) : AppState :=
  if event.type ≠ .timer then s
  -- the pair of a pending trigger: `SoftwareUpdate` is the value of `NoneSelected`
  else if s.mFunctionTimerActive ∧ s.mFunction = .softwareUpdate then
    let s := setFunction .factoryReset (startTimer kFactoryResetCancelWindowTimeout s)
    if cfg.stateLeds then
      let s := onLed .status (.set false) s
      if cfg.board.hasFactoryResetLEDs then
        onFactoryResetLEDs cfg (.blinkRate kBlinkRateMs) (onFactoryResetLEDs cfg (.set false) s)
      else onLed .status (.blinkRate kBlinkRateMs) s
    else s
  else if s.mFunctionTimerActive ∧ s.mFunction = .factoryReset then
    -- `mFunctionTimerActive` stays set: this branch does not call `CancelTimer`
    scheduleFactoryReset (setFunction .noneSelected s)
  else s

/-- `FunctionHandler`, on the members of the `ButtonEvent`. -/
def functionHandler (cfg : Config) (pinNo : ℕ) (action : AppEventType) (s : AppState) : AppState :=
  if pinNo ≠ FUNCTION_BUTTON then s
  else if action = .buttonPushed then
    if ¬ s.mFunctionTimerActive ∧ s.mFunction = .noneSelected then
      setFunction .softwareUpdate (startTimer kFactoryResetTriggerTimeout s)
    else s
  else if s.mFunctionTimerActive ∧ s.mFunction = .softwareUpdate then
    setFunction .noneSelected (cancelTimer s)
  else if s.mFunctionTimerActive ∧ s.mFunction = .factoryReset then
    setFunction .noneSelected <| cancelTimer <|
      if cfg.stateLeds then
        updateStatusLED cfg
          (if cfg.board.hasFactoryResetLEDs then onFactoryResetLEDs cfg (.set false) s
          else onLed .status (.set false) s)
      else s
  else if s.mFunctionTimerActive then
    setFunction .noneSelected (cancelTimer s)
  else s

/-- `DispatchEvent`. -/
def dispatchEvent (cfg : Config) (event : AppEvent) (s : AppState) : AppState :=
  match event with
  | .button pinNo action => functionHandler cfg pinNo action s
  | .timer _ => functionTimerEventHandler cfg event s
  | .updateLedState led _ => onLed led .updateState s
  | .other _ => s

/-- `ButtonEventHandler`. -/
def buttonEventHandler (buttonState hasChanged : UInt32) (s : AppState) : AppState :=
  if FUNCTION_BUTTON_MASK &&& hasChanged ≠ 0 then
    postEvent (.button FUNCTION_BUTTON
      (if FUNCTION_BUTTON_MASK &&& buttonState ≠ 0 then .buttonPushed else .buttonReleased)) s
  else s

/-- `FunctionTimerTimeoutCallback`. -/
def functionTimerTimeoutCallback (s : AppState) : AppState :=
  postEvent (.timer ⟨s.sFunctionTimer.starts, s.buttonHeld⟩) s

/-- `LEDStateUpdateHandler`. -/
def ledStateUpdateHandler (led : Led) (s : AppState) : AppState :=
  postEvent (.updateLedState led (s.leds led).mLedTimer.starts) s

/-- `LEDWidget::LedStateTimerHandler`. -/
def ledStateTimerHandler (led : Led) (s : AppState) : AppState :=
  if s.sStateUpdateCallback then ledStateUpdateHandler led s else s

/-- `ChipEventHandler`. -/
def chipEventHandler (cfg : Config) (type : DeviceEventType) (mgr : ConnectivityMgr)
    (s : AppState) : AppState :=
  match type with
  | .kCHIPoBLEConnectionEstablished | .kCHIPoBLEConnectionClosed =>
    updateStatusLED cfg { s with sHaveBLEConnections := mgr.numBLEConnections != 0 }
  | .kCHIPoBLEAdvertisingChange =>
    updateStatusLED cfg { s with sHaveBLEConnections := mgr.numBLEConnections != 0 }
  | .kWiFiConnectivityChange =>
    updateStatusLED cfg { s with
      sIsNetworkProvisioned := mgr.isWiFiStationProvisioned
      sIsNetworkEnabled := mgr.isWiFiStationConnected }
  | .kThreadStateChange =>
    updateStatusLED cfg { s with
      sIsNetworkProvisioned := mgr.isThreadProvisioned
      sIsNetworkEnabled := mgr.isThreadEnabled }
  | _ => s

/-- `OnIdentifyStart`. -/
def onIdentifyStart (cfg : Config) (s : AppState) : AppState :=
  if cfg.stateLeds then onLed .identify (.blink identifyBlinkMs identifyBlinkMs) s else s

/-- `OnIdentifyStop`. -/
def onIdentifyStop (cfg : Config) (s : AppState) : AppState :=
  if cfg.stateLeds then onLed .identify (.set false) s else s

/-- `IdentifyHandler_Init`. -/
def identifyHandlerInit (cfg : Config) (s : AppState) : AppState :=
  if cfg.stateLeds then
    onLed .identify (.set false) (onLed .identify (.init IDENTIFY_STATE_LED) s)
  else s

/-- Static storage, and the constructor of `FactoryResetLEDsWrapper`. -/
def boot (cfg : Config) : AppState where
  mFunction := .noneSelected
  mFunctionTimerActive := false
  sFunctionTimer := .fresh
  sAppEventQueue := .empty
  taken := none
  leds
    -- the constructor of the wrapper initialises its own widgets
    | .factoryReset i =>
      match cfg.board.factoryResetSignalLEDs[i]? with
      | some gpio => .init gpio .zero
      | none => .zero
    | _ => .zero
  sStateUpdateCallback := false
  sIsNetworkProvisioned := false
  sIsNetworkEnabled := false
  sHaveBLEConnections := false
  buttonHeld := false
  scheduledResets := 0
  dropped := 0

/-- `LEDWidget::SetStateUpdateCallback`, given a callback. -/
def setStateUpdateCallback (s : AppState) : AppState :=
  { s with sStateUpdateCallback := true }

/-- `k_timer_init` of `sFunctionTimer`. -/
def functionTimerInit (s : AppState) : AppState :=
  { s with sFunctionTimer := s.sFunctionTimer.stop }

/-- `AppTask::Init`, where `dk_buttons_init` succeeds. -/
def init (cfg : Config) (s : AppState) : AppState :=
  functionTimerInit <|
    if cfg.stateLeds then
      let s := identifyHandlerInit cfg (onLed .status (.init SYSTEM_STATE_LED)
        (setStateUpdateCallback s))
      updateStatusLED cfg
        (if cfg.board.hasFactoryResetLEDs then onFactoryResetLEDs cfg (.set false) s else s)
    else s

/-! ## What may happen next -/

/-- The steps of the application. -/
inductive Step
  /-- The buttons library reports which buttons are down and which changed. -/
  | buttons (buttonState hasChanged : UInt32)
  /-- `sFunctionTimer` expires. -/
  | functionTimer
  /-- The timer of a widget expires. -/
  | ledTimer (led : Led)
  /-- `AppTaskMain` takes the oldest event: `k_msgq_get`. -/
  | get
  /-- `AppTaskMain` dispatches the event it took. -/
  | dispatch
  /-- The platform hands an event to `ChipEventHandler`. -/
  | chip (type : DeviceEventType) (mgr : ConnectivityMgr)
  /-- The Identify cluster starts to identify. -/
  | identifyStart
  /-- And stops. -/
  | identifyStop
  /-- Some code operates on a widget. -/
  | led (led : Led) (op : LedOp)
  /-- Another producer posts an event. -/
  | post (type : AppEventType)
  deriving DecidableEq

/-- **What a step does**, and `none` where it cannot happen: the edges of
the function button alternate, a timer expires only while it runs, and the
loop takes an event only when it has dispatched the one before. -/
def step (cfg : Config) (s : AppState) : Step → Option AppState
  | .buttons buttonState hasChanged =>
    if FUNCTION_BUTTON_MASK &&& hasChanged ≠ 0 then
      if decide (FUNCTION_BUTTON_MASK &&& buttonState ≠ 0) = s.buttonHeld then none
      else some (buttonEventHandler buttonState hasChanged
        { s with buttonHeld := decide (FUNCTION_BUTTON_MASK &&& buttonState ≠ 0) })
    else some (buttonEventHandler buttonState hasChanged s)
  | .functionTimer =>
    if s.sFunctionTimer.Armed then
      some (functionTimerTimeoutCallback { s with sFunctionTimer := s.sFunctionTimer.stop })
    else none
  | .ledTimer led =>
    if (s.leds led).mLedTimer.Armed then
      some (ledStateTimerHandler led
        (onLed led (fun w => { w with mLedTimer := w.mLedTimer.stop }) s))
    else none
  | .get =>
    match s.taken, s.sAppEventQueue.get? with
    | none, some (event, queue) => some { s with taken := some event, sAppEventQueue := queue }
    | _, _ => none
  | .dispatch =>
    match s.taken with
    | some event => some (dispatchEvent cfg event { s with taken := none })
    | none => none
  | .chip type mgr => some (chipEventHandler cfg type mgr s)
  | .identifyStart => some (onIdentifyStart cfg s)
  | .identifyStop => some (onIdentifyStop cfg s)
  | .led led op => some (onLed led op.run s)
  | .post type => some (postEvent (.other type) s)

/-! ## What the guarded steps ask and leave -/

variable {cfg : Config} {s s' : AppState}

/-- An edge of the function button moves it, and any other change is of
other buttons. -/
theorem of_step_buttons {buttonState hasChanged : UInt32}
    (h : step cfg s (.buttons buttonState hasChanged) = some s') :
    ∃ held, s' = buttonEventHandler buttonState hasChanged { s with buttonHeld := held } ∧
      if FUNCTION_BUTTON_MASK &&& hasChanged ≠ 0 then
        held = decide (FUNCTION_BUTTON_MASK &&& buttonState ≠ 0) ∧ held ≠ s.buttonHeld
      else held = s.buttonHeld := by
  simp only [step] at h
  by_cases hmask : FUNCTION_BUTTON_MASK &&& hasChanged ≠ 0
  · rw [if_pos hmask] at h
    split_ifs at h with hedge
    refine ⟨_, (Option.some.inj h).symm, ?_⟩
    rw [if_pos hmask]
    exact ⟨rfl, hedge⟩
  · rw [if_neg hmask] at h
    refine ⟨s.buttonHeld, (Option.some.inj h).symm, ?_⟩
    rw [if_neg hmask]

theorem of_step_functionTimer (h : step cfg s .functionTimer = some s') :
    s.sFunctionTimer.Armed ∧
      s' = functionTimerTimeoutCallback { s with sFunctionTimer := s.sFunctionTimer.stop } := by
  simp only [step] at h
  split_ifs at h with harm
  exact ⟨harm, (Option.some.inj h).symm⟩

theorem of_step_ledTimer {led : Led} (h : step cfg s (.ledTimer led) = some s') :
    (s.leds led).mLedTimer.Armed ∧
      s' = ledStateTimerHandler led
        (onLed led (fun w => { w with mLedTimer := w.mLedTimer.stop }) s) := by
  simp only [step] at h
  split_ifs at h with harm
  exact ⟨harm, (Option.some.inj h).symm⟩

theorem of_step_get (h : step cfg s .get = some s') :
    ∃ event queue, s.taken = none ∧ s.sAppEventQueue.get? = some (event, queue) ∧
      s' = { s with taken := some event, sAppEventQueue := queue } := by
  simp only [step] at h
  split at h
  · rename_i event queue htaken hget
    exact ⟨event, queue, htaken, hget, (Option.some.inj h).symm⟩
  · exact absurd h (by simp)

theorem of_step_dispatch (h : step cfg s .dispatch = some s') :
    ∃ event, s.taken = some event ∧ s' = dispatchEvent cfg event { s with taken := none } := by
  simp only [step] at h
  split at h
  · rename_i event htaken
    exact ⟨event, htaken, (Option.some.inj h).symm⟩
  · exact absurd h (by simp)

end AppTask

/-- **The application task**, from the end of `AppTask::Init`. -/
def appTask (cfg : Config) : Machine AppState AppTask.Step where
  init := AppTask.init cfg (AppTask.boot cfg)
  step := AppTask.step cfg

namespace AppState

/-- The events that are posted and not yet dispatched, the oldest first. -/
def pending (s : AppState) : List AppEvent := s.taken.toList ++ s.sAppEventQueue.items

/-- The machine is idle: neither flag of a hold is set. -/
def Idle (s : AppState) : Prop := s.mFunction = .noneSelected ∧ s.mFunctionTimerActive = false

instance (s : AppState) : Decidable s.Idle := inferInstanceAs (Decidable (_ ∧ _))

/-- The step dispatches the event. -/
def Dispatches (s : AppState) (a : AppTask.Step) (event : AppEvent) : Prop :=
  a = .dispatch ∧ s.taken = some event

instance (s : AppState) (a : AppTask.Step) (event : AppEvent) : Decidable (s.Dispatches a event) :=
  inferInstanceAs (Decidable (_ ∧ _))

end AppState

end SoilSensor
