import SoilSensor.Common.OneShot
/-!
# Model — the LED widget

`LEDWidget.cpp`, function by function. A widget that blinks is kept going
by its timer: the expiry is handed to whoever installed the state-update
callback, and `updateState` toggles the pin and starts the timer again.
-/

namespace SoilSensor

/-- `LEDWidget`: the private members, and the level `dk_set_led` last drove
on the pin `mGPIONum`. -/
structure LEDWidget where
  mBlinkOnTimeMS : UInt32
  mBlinkOffTimeMS : UInt32
  mGPIONum : UInt32
  mState : Bool
  mLedTimer : OneShot UInt32
  pin : Bool

namespace LEDWidget

/-- A widget of static storage, before `Init`. -/
def zero : LEDWidget := ⟨0, 0, 0, false, .fresh, false⟩

/-- Both blink times are set: what `Blink` and `UpdateState` test. -/
def Blinking (w : LEDWidget) : Prop := w.mBlinkOnTimeMS ≠ 0 ∧ w.mBlinkOffTimeMS ≠ 0

instance (w : LEDWidget) : Decidable w.Blinking := inferInstanceAs (Decidable (_ ∧ _))

/-- `DoSet`. -/
def doSet (state : Bool) (w : LEDWidget) : LEDWidget :=
  { w with mState := state, pin := state }

/-- `ScheduleStateChange`. -/
def scheduleStateChange (w : LEDWidget) : LEDWidget :=
  { w with mLedTimer := w.mLedTimer.start (if w.mState then w.mBlinkOnTimeMS else w.mBlinkOffTimeMS) }

/-- `Set`. -/
def set (state : Bool) (w : LEDWidget) : LEDWidget :=
  doSet state { w with mLedTimer := w.mLedTimer.stop, mBlinkOnTimeMS := 0, mBlinkOffTimeMS := 0 }

/-- `Init`; `k_timer_init` leaves the timer stopped. -/
def init (gpioNum : UInt32) (w : LEDWidget) : LEDWidget :=
  set false { w with
    mBlinkOnTimeMS := 0, mBlinkOffTimeMS := 0, mGPIONum := gpioNum, mState := false,
    mLedTimer := w.mLedTimer.stop }

/-- `Invert`. -/
def invert (w : LEDWidget) : LEDWidget := set (!w.mState) w

/-- `UpdateState`. -/
def updateState (w : LEDWidget) : LEDWidget :=
  if w.Blinking then scheduleStateChange (doSet (!w.mState) w) else w

/-- `Blink(onTimeMS, offTimeMS)`. -/
def blink (onTimeMS offTimeMS : UInt32) (w : LEDWidget) : LEDWidget :=
  let w := { w with
    mLedTimer := w.mLedTimer.stop, mBlinkOnTimeMS := onTimeMS, mBlinkOffTimeMS := offTimeMS }
  if w.Blinking then scheduleStateChange (doSet (!w.mState) w) else w

/-- `Blink(changeRateMS)`. -/
def blinkRate (changeRateMS : UInt32) : LEDWidget → LEDWidget :=
  blink changeRateMS changeRateMS

variable {w : LEDWidget} {onMS offMS gpio : UInt32} {b : Bool}

/-! ## What each operation leaves -/

@[simp] theorem set_onTime : (w.set b).mBlinkOnTimeMS = 0 := rfl

@[simp] theorem set_offTime : (w.set b).mBlinkOffTimeMS = 0 := rfl

@[simp] theorem set_timer : (w.set b).mLedTimer = w.mLedTimer.stop := rfl

@[simp] theorem blink_onTime : (w.blink onMS offMS).mBlinkOnTimeMS = onMS := by
  unfold blink; dsimp only; split <;> rfl

@[simp] theorem blink_offTime : (w.blink onMS offMS).mBlinkOffTimeMS = offMS := by
  unfold blink; dsimp only; split <;> rfl

@[simp] theorem updateState_onTime : w.updateState.mBlinkOnTimeMS = w.mBlinkOnTimeMS := by
  unfold updateState; split <;> rfl

@[simp] theorem updateState_offTime : w.updateState.mBlinkOffTimeMS = w.mBlinkOffTimeMS := by
  unfold updateState; split <;> rfl

@[simp] theorem blinking_updateState : w.updateState.Blinking ↔ w.Blinking := by
  simp [Blinking]

/-- `Set` ends a blink. -/
@[simp] theorem not_blinking_set : ¬ (w.set b).Blinking := by simp [Blinking]

/-- `Blink` starts the timer exactly when both times are set. -/
theorem armed_blink : (w.blink onMS offMS).mLedTimer.Armed ↔ (w.blink onMS offMS).Blinking := by
  simp only [Blinking, blink_onTime, blink_offTime]
  unfold blink
  dsimp only
  split
  · rename_i h; exact iff_of_true OneShot.armed_start h
  · rename_i h; exact iff_of_false OneShot.not_armed_stop h

/-- An update of a blinking widget starts the timer again. -/
theorem armed_updateState (h : w.Blinking) : w.updateState.mLedTimer.Armed := by
  rw [updateState, if_pos h]; exact OneShot.armed_start

/-- And leaves any other as it is. -/
theorem updateState_of_not_blinking (h : ¬ w.Blinking) : w.updateState = w := by
  rw [updateState, if_neg h]

end LEDWidget

/-- The public operations of a widget. -/
inductive LedOp
  | init (gpioNum : UInt32)
  | set (state : Bool)
  | invert
  | blink (onTimeMS offTimeMS : UInt32)
  | updateState
  deriving DecidableEq

/-- The operation applied. -/
def LedOp.run : LedOp → LEDWidget → LEDWidget
  | .init gpioNum => .init gpioNum
  | .set state => .set state
  | .invert => .invert
  | .blink onTimeMS offTimeMS => .blink onTimeMS offTimeMS
  | .updateState => .updateState

namespace LEDWidget

/-- **A widget whose timer runs is blinking.** -/
def Tidy (w : LEDWidget) : Prop := w.mLedTimer.Armed → w.Blinking

/-- Every operation leaves a widget tidy that was. -/
theorem Tidy.run {w : LEDWidget} (h : w.Tidy) (op : LedOp) : (op.run w).Tidy := by
  cases op with
  | init => exact fun ha => absurd ha OneShot.not_armed_stop
  | set => exact fun ha => absurd ha OneShot.not_armed_stop
  | invert => exact fun ha => absurd ha OneShot.not_armed_stop
  | blink => exact armed_blink.1
  | updateState =>
    intro ha
    by_cases hb : w.Blinking
    · exact blinking_updateState.2 hb
    · simp only [LedOp.run, updateState_of_not_blinking hb] at ha ⊢
      exact h ha

/-- **No operation stops a blink and leaves it set**: a widget that blinks
after an operation has its timer running. -/
theorem armed_of_blinking_run {w : LEDWidget} {op : LedOp} (h : (op.run w).Blinking) :
    (op.run w).mLedTimer.Armed := by
  cases op with
  | init => exact absurd h not_blinking_set
  | set => exact absurd h not_blinking_set
  | invert => exact absurd h not_blinking_set
  | blink => exact armed_blink.2 h
  | updateState => exact armed_updateState (blinking_updateState.1 h)

end LEDWidget

end SoilSensor
