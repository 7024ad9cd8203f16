import Mathlib.Data.Nat.Notation
/-!
# Model — the events of the application task

`AppEvent.h`, `AppConfig.h` and the platform events the application
listens to. The payload of an `AppEvent` is a constructor's arguments, and
its `Handler` is the one the poster stores with it.
-/

namespace SoilSensor

/-- `AppEventType`. -/
inductive AppEventType
  | none
  | button
  | buttonPushed
  | buttonReleased
  | timer
  | updateLedState
  | start
  | install
  deriving DecidableEq

/-- `FunctionEvent`, by value: the source gives `SoftwareUpdate` the value
of `NoneSelected`. -/
inductive FunctionEvent
  | noneSelected
  | factoryReset
  | advertisingStart
  deriving DecidableEq

/-- `FunctionEvent::SoftwareUpdate`, the second name of the value `0`. -/
abbrev FunctionEvent.softwareUpdate : FunctionEvent := .noneSelected

/-- The widgets of the application: `sStatusLED`, `sIdentifyLED`, and those
of `sFactoryResetLEDs` by position. -/
inductive Led
  | status
  | identify
  | factoryReset (index : ℕ)
  deriving DecidableEq

/-- What is remembered of an expiry of `sFunctionTimer`: which start of the
timer it answers, and whether the button was held. No handler reads it. -/
structure Expiry where
  start : ℕ
  held : Bool
  deriving DecidableEq

/-- `AppEvent`. -/
inductive AppEvent
  /-- `ButtonEvent`, handled by `FunctionHandler`. -/
  | button (pinNo : ℕ) (action : AppEventType)
  /-- `TimerEvent`, handled by `FunctionTimerEventHandler`. -/
  | timer (expiry : Expiry)
  /-- `UpdateLedStateEvent`, handled by the widget; `start` is the start of
  the widget's timer the event answers, which no handler reads. -/
  | updateLedState (ledWidget : Led) (start : ℕ)
  /-- An event of another producer, with no handler. -/
  | other (type : AppEventType)
  deriving DecidableEq

/-- The member `Type`. -/
def AppEvent.type : AppEvent → AppEventType
  | .button _ _ => .button
  | .timer _ => .timer
  | .updateLedState _ _ => .updateLedState
  | .other type => type

/-- `FUNCTION_BUTTON`, which is `DK_BTN1`. -/
def FUNCTION_BUTTON : ℕ := 0

/-- `FUNCTION_BUTTON_MASK`, which is `DK_BTN1_MSK`. -/
def FUNCTION_BUTTON_MASK : UInt32 := 1

/-- `SYSTEM_STATE_LED`, which is `DK_LED1`. -/
def SYSTEM_STATE_LED : UInt32 := 0

/-- `IDENTIFY_STATE_LED`, which is `DK_LED2`. -/
def IDENTIFY_STATE_LED : UInt32 := 1

/-- The dedicated factory-reset LEDs a board has: `FACTORY_RESET_SIGNAL_LED`
and `FACTORY_RESET_SIGNAL_LED1` both defined, the first alone, or neither. -/
inductive Board
  | two
  | one
  | none
  deriving DecidableEq

/-- The pins of the signal LEDs, `DK_LED3` and `DK_LED4`. -/
def Board.factoryResetSignalLEDs : Board → List UInt32
  | .two => [2, 3]
  | .one => [2]
  | .none => []

/-- The widgets of `sFactoryResetLEDs`. -/
def Board.sFactoryResetLEDs : Board → List Led
  | .two => [.factoryReset 0, .factoryReset 1]
  | .one => [.factoryReset 0]
  | .none => []

/-- `HAS_FACTORY_RESET_LEDS`. -/
def Board.hasFactoryResetLEDs : Board → Bool
  | .two => true
  | .one => true
  | .none => false

/-- The build: the board, and whether `CONFIG_STATE_LEDS` is set. -/
structure Config where
  board : Board
  stateLeds : Bool

/-- `DeviceEventType`, as far as the application distinguishes it. -/
inductive DeviceEventType
  | kCHIPoBLEConnectionEstablished
  | kCHIPoBLEConnectionClosed
  | kCHIPoBLEAdvertisingChange
  | kWiFiConnectivityChange
  | kThreadStateChange
  | kFactoryReset
  | other
  deriving DecidableEq

/-- What `ConnectivityMgr()` answers when a platform event is handled. -/
structure ConnectivityMgr where
  numBLEConnections : ℕ
  isWiFiStationProvisioned : Bool
  isWiFiStationConnected : Bool
  isThreadProvisioned : Bool
  isThreadEnabled : Bool
  deriving DecidableEq

end SoilSensor
