import SoilSensor.App.Hold
import SoilSensor.App.Operations
/-!
# The status LED

What the status LED should show is said of the connectivity, in four cases;
`UpdateStatusLED` tells three apart. It is called with every platform event
that evaluates the flags, and again when a factory reset is cancelled, so
that outside the cancel window, up to the first reset, the LED shows what it
makes of the connectivity last evaluated (`shows_of_run`). That is what is
documented in all cases but one: provisioned without connectivity
(`documented_iff`).
-/

namespace SoilSensor

/-- **What an LED shows.** -/
inductive LedMode
  | solid (on : Bool)
  | flash (onMs offMs : UInt32)
  deriving DecidableEq

namespace LEDWidget

/-- What a widget shows. -/
def mode (w : LEDWidget) : LedMode :=
  if w.Blinking then .flash w.mBlinkOnTimeMS w.mBlinkOffTimeMS else .solid w.mState

variable {w : LEDWidget} {onMS offMS : UInt32} {b : Bool}

@[simp] theorem mode_set : (w.set b).mode = .solid b := by
  rw [mode, if_neg not_blinking_set]
  rfl

theorem mode_blink (h : onMS ≠ 0 ∧ offMS ≠ 0) : (w.blink onMS offMS).mode = .flash onMS offMS := by
  have hb : (w.blink onMS offMS).Blinking := by
    rw [Blinking, blink_onTime, blink_offTime]
    exact h
  rw [mode, if_pos hb, blink_onTime, blink_offTime]

/-- An update toggles the pin, and shows the same. -/
@[simp] theorem mode_updateState : w.updateState.mode = w.mode := by
  by_cases hb : w.Blinking
  · rw [mode, mode, if_pos hb, if_pos (blinking_updateState.2 hb), updateState_onTime,
      updateState_offTime]
  · rw [updateState_of_not_blinking hb]

@[simp] theorem mode_expire : w.expire.mode = w.mode := rfl

end LEDWidget

/-- **The connectivity**, as the application evaluates it. -/
structure Connectivity where
  haveBLEConnections : Bool
  provisioned : Bool
  connected : Bool
  deriving DecidableEq

namespace Connectivity

/-- Nothing evaluated yet. -/
def none : Connectivity := ⟨false, false, false⟩

/-- **What is documented** of `LED 1`. -/
def documented (c : Connectivity) : LedMode :=
  if c.provisioned then
    if c.connected then .solid true else .flash 950 50
  else if c.haveBLEConnections then .flash 100 100 else .flash 50 950

/-- What `UpdateStatusLED` makes of it. -/
def shown (c : Connectivity) : LedMode :=
  if c.provisioned && c.connected then .solid true
  else if c.haveBLEConnections then .flash unprovisionedOnMs unprovisionedOffMs
  else .flash provisionedOnMs provisionedOffMs

/-- **The one case that is missed.** -/
theorem shown_eq_documented_iff {c : Connectivity} :
    c.shown = c.documented ↔ ¬ (c.provisioned = true ∧ c.connected = false) := by
  obtain ⟨ble, provisioned, connected⟩ := c
  revert ble provisioned connected
  decide

end Connectivity

open AppTask

variable {cfg : Config} {tr : List (Transition AppState Step)} {s s' : AppState} {a : Step}
variable {event : AppEvent} {w : LEDWidget}

/-- The flags of a state. -/
def AppState.connectivity (s : AppState) : Connectivity :=
  ⟨s.sHaveBLEConnections, s.sIsNetworkProvisioned, s.sIsNetworkEnabled⟩

/-- What a step makes of the connectivity. -/
def report (c : Connectivity) : Step → Connectivity
  | .chip .kCHIPoBLEConnectionEstablished mgr | .chip .kCHIPoBLEConnectionClosed mgr
  | .chip .kCHIPoBLEAdvertisingChange mgr =>
    { c with haveBLEConnections := mgr.numBLEConnections != 0 }
  | .chip .kWiFiConnectivityChange mgr =>
    { c with
      provisioned := mgr.isWiFiStationProvisioned
      connected := mgr.isWiFiStationConnected }
  | .chip .kThreadStateChange mgr =>
    { c with provisioned := mgr.isThreadProvisioned, connected := mgr.isThreadEnabled }
  | _ => c

/-- **The connectivity last evaluated in a run.** -/
def lastEvaluated (tr : List (Transition AppState Step)) : Connectivity :=
  (tr.map Transition.act).foldl report .none

@[simp] theorem lastEvaluated_snoc {t : Transition AppState Step} :
    lastEvaluated (tr ++ [t]) = report (lastEvaluated tr) t.act := by
  simp [lastEvaluated]

/-! ## The flags -/

/-- The connectivity is a part of the lights. -/
theorem connectivity_eq : s.connectivity = ⟨(Lights.ofApp s).haveBLEConnections,
    (Lights.ofApp s).provisioned, (Lights.ofApp s).enabled⟩ := rfl

theorem connectivity_evaluated : (evaluated s a).connectivity = report s.connectivity a := by
  cases a with
  | chip type mgr => cases type <;> rfl
  | _ => rfl

/-- **A step reports.** -/
theorem connectivity_step (hstep : AppTask.step cfg s a = some s') :
    s'.connectivity = report s.connectivity a := by
  by_cases htimer : ∃ l, a = .ledTimer l
  · obtain ⟨l, rfl⟩ := htimer
    rw [connectivity_eq, (Lights.ofApp_ledTimer hstep).2]
    rfl
  · have hnot : ∀ l, a ≠ .ledTimer l := fun l h => htimer ⟨l, h⟩
    rw [connectivity_eq, Lights.ofApp_step hnot hstep, ← connectivity_evaluated]
    rfl

theorem connectivity_of_run (r : (appTask cfg).Run tr s) : s.connectivity = lastEvaluated tr := by
  induction r with
  | init =>
    rw [connectivity_eq, Lights.ofApp_init]
    rfl
  | snoc r hstep ih => rw [lastEvaluated_snoc, connectivity_step hstep, ih]

/-! ## What the LED shows -/

/-- `UpdateStatusLED` leaves the LED showing the connectivity, whatever it
showed. -/
theorem mode_statusOps {ops : List (Led × LedOp)} (hleds : cfg.stateLeds) :
    (LedOp.runAll (opsOn .status (ops ++ statusOps cfg s)) w).mode = s.connectivity.shown := by
  have hconnected : unprovisionedOnMs ≠ 0 ∧ unprovisionedOffMs ≠ 0 := by decide
  have hwaiting : provisionedOnMs ≠ 0 ∧ provisionedOffMs ≠ 0 := by decide
  rw [opsOn_append, LedOp.runAll, List.foldl_append]
  unfold statusOps Connectivity.shown AppState.connectivity
  rw [if_pos hleds]
  split_ifs
  · exact LEDWidget.mode_set
  · exact LEDWidget.mode_blink hconnected
  · exact LEDWidget.mode_blink hwaiting

/-- **A step that does not update the status LED from the flags**: it
evaluates none and cancels no reset, and operates on the LED only to toggle
it or to begin the cancel window. -/
structure Quiet (cfg : Config) (s : AppState) (a : Step) : Prop where
  unreported : ∀ c, report c a = c
  uncancelled : ∀ pinNo action, s.Dispatches a (.button pinNo action) → ¬ Cancels pinNo action s
  ops : opsOn .status (stepOps cfg s a) = [] ∨ opsOn .status (stepOps cfg s a) = [.updateState] ∨
    ∃ x, s.Dispatches a (.timer x) ∧ Triggers s

/-- The release that cancels a reset ends with `UpdateStatusLED`. -/
theorem cancelOps_eq : ∃ ops, cancelOps cfg s = ops ++ statusOps cfg s := by
  unfold cancelOps
  by_cases hleds : cfg.stateLeds
  · rw [if_pos hleds]
    exact ⟨_, rfl⟩
  · rw [if_neg hleds, statusOps, if_neg hleds]
    exact ⟨[], rfl⟩

/-- What is dispatched cancels, or is quiet. -/
theorem refreshed_or_quiet_dispatch (htaken : s.taken = some event) :
    (∃ ops, stepOps cfg s .dispatch = ops ++ statusOps cfg s) ∨ Quiet cfg s .dispatch := by
  have hops : stepOps cfg s .dispatch = dispatchOps cfg s event := by rw [stepOps, htaken]; rfl
  have hevent : ∀ e, s.Dispatches .dispatch e → event = e :=
    fun e hd => Option.some.inj (htaken.symm.trans hd.2)
  cases event with
  | button pinNo action =>
    rw [dispatchOps] at hops
    by_cases hcancel : Cancels pinNo action s
    · left
      rw [hops, if_pos hcancel]
      exact cancelOps_eq
    · refine Or.inr ⟨fun _ => rfl, fun p b hd hc => ?_, Or.inl ?_⟩
      · obtain ⟨rfl, rfl⟩ := AppEvent.button.inj (hevent _ hd)
        exact hcancel hc
      · rw [hops, if_neg hcancel]
        rfl
  | timer x =>
    refine Or.inr ⟨fun _ => rfl, fun p b hd => AppEvent.noConfusion (hevent _ hd), ?_⟩
    by_cases htrig : Triggers s
    · exact Or.inr (Or.inr ⟨x, ⟨rfl, htaken⟩, htrig⟩)
    · rw [hops, dispatchOps, if_neg htrig]
      exact Or.inl rfl
  | updateLedState led n =>
    refine Or.inr ⟨fun _ => rfl, fun p b hd => AppEvent.noConfusion (hevent _ hd), ?_⟩
    rw [hops]
    by_cases hled : led = .status
    · exact Or.inr (Or.inl (by simp [opsOn, dispatchOps, hled]))
    · exact Or.inl (by simp [opsOn, dispatchOps, hled])
  | other =>
    refine Or.inr ⟨fun _ => rfl, fun p b hd => AppEvent.noConfusion (hevent _ hd), Or.inl ?_⟩
    rw [hops]
    rfl

/-- **Every step ends with `UpdateStatusLED`, or is quiet.** -/
theorem refreshed_or_quiet (hother : ∀ op, a ≠ .led .status op) :
    (∃ ops, stepOps cfg s a = ops ++ statusOps cfg (evaluated s a)) ∨ Quiet cfg s a := by
  have hquiet : (∀ c, report c a = c) → a ≠ .dispatch →
      opsOn .status (stepOps cfg s a) = [] → Quiet cfg s a :=
    fun hrep hne hops => ⟨hrep, fun _ _ hd => absurd hd.1 hne, Or.inl hops⟩
  cases a with
  | dispatch =>
    cases htaken : s.taken with
    | none =>
      have hnone : stepOps cfg s .dispatch = [] := by rw [stepOps, htaken]; rfl
      refine Or.inr ⟨fun _ => rfl, fun _ _ hd => ?_, Or.inl (by rw [hnone]; rfl)⟩
      cases htaken.symm.trans hd.2
    | some event => exact refreshed_or_quiet_dispatch htaken
  | chip type mgr =>
    cases type with
    | kFactoryReset => exact Or.inr (hquiet (fun _ => rfl) Step.noConfusion rfl)
    | other => exact Or.inr (hquiet (fun _ => rfl) Step.noConfusion rfl)
    | _ => exact Or.inl ⟨[], rfl⟩
  | led led op =>
    have hne : led ≠ .status := fun h => hother op (h ▸ rfl)
    refine Or.inr (hquiet (fun _ => rfl) Step.noConfusion ?_)
    simp [opsOn, stepOps, hne]
  | identifyStart =>
    refine Or.inr (hquiet (fun _ => rfl) Step.noConfusion ?_)
    simp only [stepOps]
    split_ifs <;> rfl
  | identifyStop =>
    refine Or.inr (hquiet (fun _ => rfl) Step.noConfusion ?_)
    simp only [stepOps]
    split_ifs <;> rfl
  | _ => exact Or.inr (hquiet (fun _ => rfl) Step.noConfusion rfl)

/-! ## In and out of the window -/

/-- What is neither dispatched nor posted leaves the function alone. -/
theorem Hold.function_step {h h' : Hold} {act : Hold.Act} (hs : Hold.step h act = some h')
    (hd : act ≠ .dispatch) : h'.mFunction = h.mFunction ∧ h'.resets = h.resets := by
  have hoffer : ∀ {g : Hold} {lost : Bool} {e : AppEvent},
      (g.offer lost e).mFunction = g.mFunction ∧ (g.offer lost e).resets = g.resets := by
    intro g lost e
    cases lost <;> exact ⟨rfl, rfl⟩
  rcases Hold.step_cases hs with ⟨-, rfl⟩ | ⟨_, _, -, rfl⟩ | ⟨_, -, -, rfl⟩ | ⟨_, _, -, -, rfl⟩ |
    ⟨_, _, rfl, -, -⟩
  · exact ⟨rfl, rfl⟩
  · exact hoffer
  · exact hoffer
  · exact hoffer
  · exact absurd rfl hd

/-- **The window is left by a cancel or a reset only**: outside it after an
event that is neither, so before. -/
theorem Hold.outside_handle {h : Hold} (hf : (h.handle event).mFunction ≠ .factoryReset)
    (hr : (h.handle event).resets = 0)
    (hno : ∀ pinNo action, event = .button pinNo action →
      ¬ (pinNo = FUNCTION_BUTTON ∧ action ≠ .buttonPushed ∧ h.active ∧
        h.mFunction = .factoryReset)) :
    h.mFunction ≠ .factoryReset ∧ h.resets = 0 := by
  cases event with
  | button pinNo action =>
    have hcancel := hno pinNo action rfl
    simp only [Hold.handle] at hf hr
    split_ifs at hf hr with hpin hact
    · exact ⟨hf, hr⟩
    · simp only [Hold.push] at hf hr
      split_ifs at hf hr with hidle
      · refine ⟨fun hreset => ?_, hr⟩
        cases hidle.2.symm.trans hreset
      · exact ⟨hf, hr⟩
    · simp only [Hold.release] at hf hr
      split_ifs at hf hr with hactive
      · exact ⟨fun hreset => hcancel ⟨not_not.1 hpin, hact, hactive, hreset⟩, hr⟩
      · exact ⟨hf, hr⟩
  | timer x =>
    simp only [Hold.handle, Hold.timeout] at hf hr
    split_ifs at hf hr with htrig hreset
    · exact absurd rfl hf
    · exact ⟨hf, hr⟩
  | updateLedState => exact ⟨hf, hr⟩
  | other => exact ⟨hf, hr⟩

theorem outside_step (hstep : AppTask.step cfg s a = some s')
    (hno : ∀ pinNo action, s.Dispatches a (.button pinNo action) → ¬ Cancels pinNo action s)
    (hf : s'.mFunction ≠ .factoryReset) (hr : s'.scheduledResets = 0) :
    s.mFunction ≠ .factoryReset ∧ s.scheduledResets = 0 := by
  by_cases hd : a = .dispatch
  · subst hd
    obtain ⟨event, htaken, -⟩ := of_step_dispatch hstep
    have hof := Hold.ofApp_dispatch hstep htaken
    have hfun : s'.mFunction = _ := congrArg Hold.mFunction hof
    have hres : s'.scheduledResets = _ := congrArg Hold.resets hof
    rw [hfun] at hf
    rw [hres] at hr
    refine Hold.outside_handle hf hr fun pinNo action hevent => ?_
    exact hno pinNo action ⟨rfl, hevent ▸ htaken⟩
  · obtain ⟨hfun, hres⟩ := Hold.function_step (Hold.hold_step hstep) (Hold.actOf_ne_dispatch hd)
    change s'.mFunction = s.mFunction at hfun
    change s'.scheduledResets = s.scheduledResets at hres
    exact ⟨hfun ▸ hf, hres ▸ hr⟩

/-- A trigger's timeout begins the window. -/
theorem inside_of_triggers {x : Expiry} (hstep : AppTask.step cfg s a = some s')
    (hd : s.Dispatches a (.timer x)) (htrig : Triggers s) : s'.mFunction = .factoryReset := by
  obtain ⟨rfl, htaken⟩ := hd
  have hfun : s'.mFunction = _ := congrArg Hold.mFunction (Hold.ofApp_dispatch hstep htaken)
  rw [hfun, Hold.handle, Hold.timeout]
  exact congrArg Hold.mFunction (if_pos htrig)

/-- **Outside the window, up to the first reset, the LED shows the
connectivity.** -/
def Shows (s : AppState) : Prop :=
  s.mFunction ≠ .factoryReset → s.scheduledResets = 0 →
    (s.leds .status).mode = s.connectivity.shown

/-- **What the LED shows follows from the operations of the step**: an
expiry of its timer does not change it. -/
theorem mode_step (hstep : AppTask.step cfg s a = some s') : (s'.leds .status).mode =
    (LedOp.runAll (opsOn .status (stepOps cfg s a)) (s.leds .status)).mode := by
  by_cases htimer : ∃ l, a = .ledTimer l
  · obtain ⟨l, rfl⟩ := htimer
    rw [Lights.leds_ledTimer hstep]
    by_cases hl : .status = l
    · subst hl
      rw [Function.update_self]
      exact LEDWidget.mode_expire
    · rw [Function.update_of_ne hl]
      rfl
  · rw [Lights.leds_step (fun l h => htimer ⟨l, h⟩) hstep]

theorem mode_runAll_updateState {ops : List LedOp} (h : ∀ op ∈ ops, op = .updateState) :
    (LedOp.runAll ops w).mode = w.mode := by
  induction ops generalizing w with
  | nil => rfl
  | cons op ops ih =>
    obtain ⟨rfl, hops⟩ := List.forall_mem_cons.1 h
    exact (ih hops).trans LEDWidget.mode_updateState

/-- A step that is quiet leaves what the LED shows, or begins the window. -/
theorem mode_quiet (hq : Quiet cfg s a) (hstep : AppTask.step cfg s a = some s')
    (hf : s'.mFunction ≠ .factoryReset) : (s'.leds .status).mode = (s.leds .status).mode := by
  rw [mode_step hstep]
  rcases hq.ops with hops | hops | ⟨x, hd, htrig⟩
  · rw [hops]
    rfl
  · rw [hops]
    exact LEDWidget.mode_updateState
  · exact absurd (inside_of_triggers hstep hd htrig) hf

theorem Shows.step (hleds : cfg.stateLeds) (hs : Shows s) (hother : ∀ op, a ≠ .led .status op)
    (hstep : AppTask.step cfg s a = some s') : Shows s' := by
  intro hf hr
  rw [connectivity_step hstep]
  rcases @refreshed_or_quiet cfg s a hother with ⟨ops, hops⟩ | hq
  · rw [mode_step hstep, hops, mode_statusOps hleds, connectivity_evaluated]
  · obtain ⟨hf', hr'⟩ := outside_step hstep hq.uncancelled hf hr
    rw [hq.unreported, mode_quiet hq hstep hf, hs hf' hr']

theorem shows_init (hleds : cfg.stateLeds) : Shows (appTask cfg).init := by
  intro _ _
  have hflags : (appTask cfg).init.connectivity = (boot cfg).connectivity := by
    rw [connectivity_of_run Machine.Run.init]
    rfl
  rw [Lights.leds_init, initOps, if_pos hleds, mode_statusOps hleds, hflags]

/-- **The LED shows what `UpdateStatusLED` makes of the connectivity last
evaluated.** -/
theorem shows_of_run (hleds : cfg.stateLeds) (r : (appTask cfg).Run tr s)
    (hother : ∀ t ∈ tr, ∀ op, t.act ≠ .led .status op) : Shows s :=
  r.invariant_of (G := fun _ a => ∀ op, a ≠ .led .status op) (shows_init hleds)
    (fun hs hG hstep => hs.step hleds hG hstep) hother

/-! ## A build without state LEDs -/

/-- Without state LEDs the handlers operate on no widget. -/
theorem op_of_dark {op : LedOp} (hdark : ¬ cfg.stateLeds) (hother : a ≠ .led .status op)
    (hop : op ∈ opsOn .status (stepOps cfg s a)) : op = .updateState := by
  have hmem := mem_opsOn.1 hop
  cases a with
  | dispatch =>
    cases htaken : s.taken with
    | none => simp [stepOps, htaken] at hmem
    | some event =>
      cases event with
      | updateLedState led n =>
        simp only [stepOps, htaken, Option.elim_some, dispatchOps, List.mem_singleton] at hmem
        exact (Prod.mk.inj hmem).2
      | _ => simp [stepOps, htaken, dispatchOps, cancelOps, cancelWindowOps, hdark] at hmem
  | chip type mgr => cases type <;> simp [stepOps, evaluate, statusOps, hdark] at hmem
  | led led o =>
    obtain ⟨rfl, rfl⟩ := Prod.mk.inj (List.mem_singleton.1 hmem)
    exact absurd rfl hother
  | _ => simp [stepOps, hdark] at hmem

/-- So the status LED stays dark. -/
theorem mode_of_run_dark (hdark : ¬ cfg.stateLeds) (r : (appTask cfg).Run tr s)
    (hother : ∀ t ∈ tr, ∀ op, t.act ≠ .led .status op) : (s.leds .status).mode = .solid false := by
  refine r.invariant_of (I := fun s => (s.leds .status).mode = .solid false)
    (G := fun _ a => ∀ op, a ≠ .led .status op) ?_ ?_ hother
  · rw [Lights.leds_init, initOps, if_neg hdark]
    rfl
  · intro s a s' hs hG hstep
    have hall : ∀ op ∈ opsOn .status (stepOps cfg s a), op = .updateState :=
      fun op hop => op_of_dark hdark (hG op) hop
    rw [mode_step hstep, mode_runAll_updateState hall, hs]

/-- **The status LED shows what is documented exactly if** the build has
state LEDs and the device is not provisioned without connectivity: in every
state of a run that is outside the cancel window and before the first
reset. -/
theorem documented_iff (cfg : Config) {tr : List (Transition AppState Step)} {s : AppState}
    (r : (appTask cfg).Run tr s) (hother : ∀ t ∈ tr, ∀ op, t.act ≠ .led .status op)
    (hwindow : s.mFunction ≠ .factoryReset) (hreset : s.scheduledResets = 0) :
    (s.leds .status).mode = (lastEvaluated tr).documented ↔
      cfg.stateLeds = true ∧
        ¬ ((lastEvaluated tr).provisioned = true ∧ (lastEvaluated tr).connected = false) := by
  by_cases hleds : cfg.stateLeds
  · rw [shows_of_run hleds r hother hwindow hreset, connectivity_of_run r,
      Connectivity.shown_eq_documented_iff, and_iff_right hleds]
  · rw [mode_of_run_dark hleds r hother]
    refine iff_of_false ?_ fun h => hleds h.1
    unfold Connectivity.documented
    split_ifs <;> simp

/-- **A case that is missed**: provisioned, and not connected yet. -/
theorem provisioned_not_documented :
    ¬ ∀ (cfg : Config), cfg.stateLeds = true → ∀ (tr : List (Transition AppState Step))
      (s : AppState), (appTask cfg).Run tr s → (∀ t ∈ tr, ∀ op, t.act ≠ .led .status op) →
      s.dropped = 0 → s.mFunction ≠ .factoryReset → s.scheduledResets = 0 →
      (s.leds .status).mode = (lastEvaluated tr).documented := by
  intro hall
  obtain ⟨tr, s, r, hact, hdrop, hf, hr, hne⟩ := (appTask ⟨.two, true⟩).exists_run_of_exec
    [.chip .kWiFiConnectivityChange ⟨0, true, false, false, false⟩]
    (fun tr s => (∀ t ∈ tr,
        t.act = .chip .kWiFiConnectivityChange ⟨0, true, false, false, false⟩) ∧ s.dropped = 0 ∧
      s.mFunction ≠ .factoryReset ∧ s.scheduledResets = 0 ∧
      (s.leds .status).mode ≠ (lastEvaluated tr).documented) (by decide +kernel)
  refine hne (hall _ rfl tr s r (fun t ht op hop => ?_) hdrop hf hr)
  cases (hact t ht).symm.trans hop

/-- Right after a reset is cancelled the LED is solid on again, as it was
before. -/
theorem documented_of_cancelled : ∃ tr s, (appTask ⟨.none, true⟩).Run tr s ∧ tr.length = 10 ∧
    (s.leds .status).mode = .solid true := by
  obtain ⟨tr, s, r, hlen, hact, hf, hr, hlast⟩ := (appTask ⟨.none, true⟩).exists_run_of_exec
    [.chip .kWiFiConnectivityChange ⟨0, true, true, false, false⟩,
      .buttons 1 1, .get, .dispatch, .functionTimer, .get, .dispatch, .buttons 0 1, .get, .dispatch]
    (fun tr s => tr.length = 10 ∧
      (∀ t ∈ tr, t.act ∈ [.chip .kWiFiConnectivityChange ⟨0, true, true, false, false⟩,
        .buttons 1 1, .buttons 0 1, .functionTimer, .get, .dispatch]) ∧
      s.mFunction ≠ .factoryReset ∧ s.scheduledResets = 0 ∧
      lastEvaluated tr = ⟨false, true, true⟩) (by decide +kernel)
  refine ⟨tr, s, r, hlen, ?_⟩
  have hother : ∀ t ∈ tr, ∀ op, t.act ≠ .led .status op := by
    intro t ht op hop
    have hno := hact t ht
    rw [hop] at hno
    simp at hno
  rw [(documented_iff _ r hother hf hr).2 (by rw [hlast]; decide), hlast]
  rfl

end SoilSensor
