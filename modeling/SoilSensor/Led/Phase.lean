import SoilSensor.Common.Machine
import SoilSensor.Led.Model.Widget
/-!
# The widget and its phases

A widget on its own: its operations and the expiries of its timer, in any
order, where `UpdateState` may also come late, for an expiry of a blink that
is over. The pin is at the level the widget remembers, a timer that runs was
started for the phase the widget is in (`Phased`), and a widget that does
not blink is not moved by what comes late (`widget_in_phase`).
-/

namespace SoilSensor

namespace LEDWidget

/-- **The widget is in its phase.** -/
structure Phased (w : LEDWidget) : Prop where
  pin : w.pin = w.mState
  running : ∀ d, w.mLedTimer.running = some d →
    w.Blinking ∧ d = if w.mState then w.mBlinkOnTimeMS else w.mBlinkOffTimeMS

variable {w : LEDWidget} {op : LedOp} {onMS offMS gpio : UInt32} {b : Bool}

/-- The expiry of the timer, whose handler does not touch the widget. -/
def expire (w : LEDWidget) : LEDWidget := { w with mLedTimer := w.mLedTimer.stop }

/-! ## One operation -/

theorem phased_set : (w.set b).Phased := ⟨rfl, fun _ h => absurd h (Option.some_ne_none _).symm⟩

/-- A toggle starts the timer for the phase it enters. -/
theorem phased_scheduleStateChange (hb : w.Blinking) :
    (scheduleStateChange (doSet b w)).Phased := by
  refine ⟨rfl, fun d hd => ⟨hb, ?_⟩⟩
  exact (Option.some.inj hd).symm

theorem phased_init : (w.init gpio).Phased := phased_set

theorem phased_zero : zero.Phased := ⟨rfl, fun _ h => absurd h (Option.some_ne_none _).symm⟩

/-- **Every operation leaves the widget in its phase.** -/
theorem Phased.run (h : w.Phased) (op : LedOp) : (op.run w).Phased := by
  cases op with
  | init => exact phased_init
  | set => exact phased_set
  | invert => exact phased_set
  | blink onMS offMS =>
    simp only [LedOp.run, blink]
    split_ifs with hb
    · exact phased_scheduleStateChange hb
    · exact ⟨h.pin, fun d hd => absurd hd (Option.some_ne_none d).symm⟩
  | updateState =>
    simp only [LedOp.run, updateState]
    split_ifs with hb
    · exact phased_scheduleStateChange hb
    · exact h

/-- And so does an expiry. -/
theorem Phased.expire (h : w.Phased) : w.expire.Phased :=
  ⟨h.pin, fun d hd => absurd hd (Option.some_ne_none d).symm⟩

/-- What comes late leaves a widget that does not blink as it is, but for
its timer. -/
theorem late (hb : ¬ w.Blinking) : w.updateState = w ∧ ¬ w.expire.Blinking ∧ w.expire.pin = w.pin :=
  ⟨updateState_of_not_blinking hb, hb, rfl⟩

end LEDWidget

/-- **An operation that leaves the widget not blinking**: `Set`, and `Blink`
with a zero time. -/
def LedOp.Quiets : LedOp → Prop
  | .set _ => True
  | .blink onTimeMS offTimeMS => onTimeMS = 0 ∨ offTimeMS = 0
  | _ => False

theorem LedOp.Quiets.not_blinking {w : LEDWidget} {op : LedOp} (h : op.Quiets) :
    ¬ (op.run w).Blinking := by
  cases op with
  | set => exact LEDWidget.not_blinking_set
  | blink onTimeMS offTimeMS =>
    intro hb
    simp only [LedOp.run, LEDWidget.Blinking, LEDWidget.blink_onTime,
      LEDWidget.blink_offTime] at hb
    exact h.elim hb.1 hb.2
  | _ => exact h.elim

/-! ## Runs -/

/-- What happens to a widget: an operation, or the expiry of its timer. -/
inductive WidgetAct
  | op (op : LedOp)
  | expire
  deriving DecidableEq

/-- It comes late: an expiry that was pending, or an `UpdateState` for an
earlier one. -/
def WidgetAct.Late (a : WidgetAct) : Prop := a = .expire ∨ a = .op .updateState

/-- **A widget from `Init` on.** An expiry that was pending when the timer
was stopped may come when it does not run. -/
def widget (gpioNum : UInt32) (w : LEDWidget) : Machine LEDWidget WidgetAct where
  init := w.init gpioNum
  step
    | w, .op op => some (op.run w)
    | w, .expire => some w.expire

variable {w v v' : LEDWidget} {gpioNum : UInt32} {a : WidgetAct}
variable {tr : List (Transition LEDWidget WidgetAct)}

/-- A step is an operation or an expiry. -/
theorem widget_step (h : (widget gpioNum w).step v a = some v') :
    (∃ op, a = .op op ∧ v' = op.run v) ∨ a = .expire ∧ v' = v.expire := by
  cases a with
  | op op => exact Or.inl ⟨op, rfl, (Option.some.inj h).symm⟩
  | expire => exact Or.inr ⟨rfl, (Option.some.inj h).symm⟩

theorem phased_of_run (r : (widget gpioNum w).Run tr v) : v.Phased := by
  refine r.invariant LEDWidget.phased_init fun hv hstep => ?_
  obtain ⟨op, -, rfl⟩ | ⟨-, rfl⟩ := widget_step hstep
  · exact hv.run op
  · exact hv.expire

/-- A late step keeps a widget that does not blink, and its pin. -/
theorem late_step (hb : ¬ v.Blinking) (ha : a.Late) (h : (widget gpioNum w).step v a = some v') :
    ¬ v'.Blinking ∧ v'.pin = v.pin := by
  obtain ⟨hupdate, hexpire⟩ := LEDWidget.late hb
  obtain ⟨op, rfl, rfl⟩ | ⟨-, rfl⟩ := widget_step h
  · obtain rfl : op = .updateState := by
      rcases ha with ha | ha
      · cases ha
      · exact WidgetAct.op.inj ha
    change ¬ v.updateState.Blinking ∧ v.updateState.pin = v.pin
    rw [hupdate]
    exact ⟨hb, rfl⟩
  · exact hexpire

/-- **The widget and its pin.** In every run from `Init` the pin is at the
level the widget remembers, and the timer runs for a blink only, with the
time of the phase; and after a `Set`, or a `Blink` with a zero time, nothing
that comes late moves the pin. -/
theorem widget_in_phase (gpioNum : UInt32) (w : LEDWidget)
    {tr : List (Transition LEDWidget WidgetAct)} {v : LEDWidget}
    (r : (widget gpioNum w).Run tr v) :
    (∀ x ∈ (widget gpioNum w).visited tr, x.pin = x.mState ∧
      (x.mLedTimer.Armed → x.mBlinkOnTimeMS ≠ 0 ∧ x.mBlinkOffTimeMS ≠ 0 ∧
        x.mLedTimer.running = some (if x.mState then x.mBlinkOnTimeMS else x.mBlinkOffTimeMS))) ∧
    ∀ tr₁ t tr₂ op, tr = tr₁ ++ t :: tr₂ → t.act = .op op → op.Quiets →
      (∀ u ∈ tr₂, u.act.Late) → ∀ u ∈ tr₂, u.dst.pin = t.dst.pin := by
  constructor
  · intro x hx
    obtain ⟨tr₁, r₁, -⟩ := r.of_mem_visited hx
    have hphased := phased_of_run r₁
    refine ⟨hphased.pin, fun harm => ?_⟩
    obtain ⟨d, hd⟩ := Option.isSome_iff_exists.1 harm
    obtain ⟨⟨hon, hoff⟩, rfl⟩ := hphased.running d hd
    exact ⟨hon, hoff, hd⟩
  · intro tr₁ t tr₂ op h hact hquiet hlate u hu
    obtain ⟨-, hstep⟩ := r.split h
    have hquieted : ¬ t.dst.Blinking := by
      rw [hact] at hstep
      rw [← Option.some.inj hstep]
      exact hquiet.not_blinking
    have hafter := r.invariant_after (I := fun x => ¬ x.Blinking ∧ x.pin = t.dst.pin)
      (G := fun _ a => a.Late) (fun hx ha hs => ?_) h ⟨hquieted, rfl⟩ hlate
    · exact (hafter.2 u hu).2
    · obtain ⟨hb, hpin⟩ := late_step hx.1 ha hs
      exact ⟨hb, hpin.trans hx.2⟩

/-- A blink in its second phase: the pin is low, and the timer runs for the
off time. -/
theorem widget_in_phase_off : ∃ tr v, (widget 0 .zero).Run tr v ∧ tr.length = 3 ∧
    v.pin = false ∧ v.mLedTimer.running = some 950 := by
  obtain ⟨tr, v, r, hlen, harm, hstate, hoff⟩ := (widget 0 .zero).exists_run_of_exec
    [.op (.blink 50 950), .expire, .op .updateState]
    (fun tr v => tr.length = 3 ∧ v.mLedTimer.Armed ∧ v.mState = false ∧ v.mBlinkOffTimeMS = 950)
    (by decide)
  obtain ⟨hpin, hphase⟩ := (widget_in_phase 0 .zero r).1 v r.mem_visited
  obtain ⟨-, -, hrunning⟩ := hphase harm
  rw [hstate, hoff] at hrunning
  exact ⟨tr, v, r, hlen, hpin.trans hstate, hrunning⟩

end SoilSensor
