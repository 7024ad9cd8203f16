import SoilSensor.App.Model.Task
import Mathlib.Data.Nat.Basic
/-!
# The hold, apart from the lights

What a factory reset depends on: the two members of `AppTask`, the
function timer, the events waiting, and the button itself. `Hold` is that
part of the state as a machine of its own, with an unbounded queue and the
loss of a post as an input; `hold_step` says the application refines it,
so what is proved of the hold's runs is proved of the application's.
-/

namespace SoilSensor

/-- **The part of the state a hold lives in.** -/
structure Hold where
  mFunction : FunctionEvent
  active : Bool
  timer : OneShot UInt32
  pending : List AppEvent
  held : Bool
  resets : ℕ
  losses : ℕ

namespace Hold

/-- The inputs of the hold. A `lost` post leaves nothing in the queue. -/
inductive Act
  | quiet
  | edge (pressed lost : Bool)
  | expire (lost : Bool)
  | post (event : AppEvent) (lost : Bool)
  | dispatch
  deriving DecidableEq

/-- The input loses a post. -/
def Act.lost : Act → Bool
  | .edge _ lost | .expire lost | .post _ lost => lost
  | .quiet | .dispatch => false

/-- A post that arrives, or does not. -/
def offer (lost : Bool) (event : AppEvent) (h : Hold) : Hold :=
  if lost then { h with losses := h.losses + 1 } else { h with pending := h.pending ++ [event] }

/-- A push begins a hold where there is none. -/
def push (h : Hold) : Hold :=
  if ¬ h.active ∧ h.mFunction = .noneSelected then
    { h with
      mFunction := .softwareUpdate, active := true
      timer := h.timer.start kFactoryResetTriggerTimeout }
  else h

/-- A release ends one, in whichever stage. -/
def release (h : Hold) : Hold :=
  if h.active then
    { h with mFunction := .noneSelected, active := false, timer := h.timer.stop }
  else h

/-- A timeout takes a hold to its next stage. -/
def timeout (h : Hold) : Hold :=
  if h.active ∧ h.mFunction = .softwareUpdate then
    { h with
      mFunction := .factoryReset, active := true
      timer := h.timer.start kFactoryResetCancelWindowTimeout }
  else if h.active ∧ h.mFunction = .factoryReset then
    { h with mFunction := .noneSelected, resets := h.resets + 1 }
  else h

/-- An event dispatched. -/
def handle : AppEvent → Hold → Hold
  | .button pinNo action, h =>
    if pinNo ≠ FUNCTION_BUTTON then h else if action = .buttonPushed then h.push else h.release
  | .timer _, h => h.timeout
  | .updateLedState _ _, h => h
  | .other _, h => h

/-- The event an edge of the button posts. -/
def edgeEvent (pressed : Bool) : AppEvent :=
  .button FUNCTION_BUTTON (if pressed then .buttonPushed else .buttonReleased)

/-- An event that is nothing to a hold. -/
def foreign : AppEvent → Bool
  | .updateLedState _ _ | .other _ => true
  | .button _ _ | .timer _ => false

/-- The steps of a hold. -/
def step (h : Hold) : Act → Option Hold
  | .quiet => some h
  | .edge pressed lost =>
    if pressed = h.held then none
    else some (offer lost (edgeEvent pressed) { h with held := pressed })
  | .expire lost =>
    if h.timer.Armed then
      some (offer lost (.timer ⟨h.timer.starts, h.held⟩) { h with timer := h.timer.stop })
    else none
  | .post event lost => if foreign event then some (offer lost event h) else none
  | .dispatch =>
    match h.pending with
    | event :: rest => some (handle event { h with pending := rest })
    | [] => none

/-- No hold is under way. -/
def Idle (h : Hold) : Prop := h.mFunction = .noneSelected ∧ h.active = false

instance (h : Hold) : Decidable h.Idle := inferInstanceAs (Decidable (_ ∧ _))

/-- Nothing pressed, nothing waiting. -/
def start : Hold := ⟨.noneSelected, false, .fresh, [], false, 0, 0⟩

end Hold

/-- **The machine of the hold.** -/
def holdMachine : Machine Hold Hold.Act := ⟨Hold.start, Hold.step⟩

namespace Hold

/-- The hold in a state of the application. -/
def ofApp (s : AppState) : Hold where
  mFunction := s.mFunction
  active := s.mFunctionTimerActive
  timer := s.sFunctionTimer
  pending := s.pending
  held := s.buttonHeld
  resets := s.scheduledResets
  losses := s.dropped

/-- A post would be lost. -/
def full (s : AppState) : Bool := decide s.sAppEventQueue.Full

open AppTask in
/-- What a step of the application is to the hold. -/
def actOf (s : AppState) : Step → Act
  | .buttons buttonState hasChanged =>
    if FUNCTION_BUTTON_MASK &&& hasChanged ≠ 0 then
      .edge (decide (FUNCTION_BUTTON_MASK &&& buttonState ≠ 0)) (full s)
    else .quiet
  | .functionTimer => .expire (full s)
  | .ledTimer led =>
    if s.sStateUpdateCallback then
      .post (.updateLedState led (s.leds led).mLedTimer.starts) (full s)
    else .quiet
  | .get => .quiet
  | .dispatch => .dispatch
  | .chip _ _ => .quiet
  | .identifyStart => .quiet
  | .identifyStop => .quiet
  | .led _ _ => .quiet
  | .post type => .post (.other type) (full s)

section Step

variable {h h' : Hold} {a : Act} {event e : AppEvent}

/-! ## What a step can be -/

/-- **The steps**, with what each asks and what it leaves. -/
theorem step_cases (hs : step h a = some h') :
    a = .quiet ∧ h' = h ∨
    (∃ pressed lost, a = .edge pressed lost ∧
      h' = offer lost (edgeEvent pressed) { h with held := pressed }) ∨
    (∃ lost, a = .expire lost ∧ h.timer.Armed ∧
      h' = offer lost (.timer ⟨h.timer.starts, h.held⟩) { h with timer := h.timer.stop }) ∨
    (∃ event lost, a = .post event lost ∧ foreign event ∧ h' = offer lost event h) ∨
    ∃ event rest, a = .dispatch ∧ h.pending = event :: rest ∧
      h' = handle event { h with pending := rest } := by
  cases a with
  | quiet => exact Or.inl ⟨rfl, (Option.some.inj hs).symm⟩
  | edge pressed lost =>
    simp only [step] at hs
    split_ifs at hs
    exact Or.inr (Or.inl ⟨pressed, lost, rfl, (Option.some.inj hs).symm⟩)
  | expire lost =>
    simp only [step] at hs
    split_ifs at hs with harm
    exact Or.inr (Or.inr (Or.inl ⟨lost, rfl, harm, (Option.some.inj hs).symm⟩))
  | post event lost =>
    simp only [step] at hs
    split_ifs at hs with hf
    exact Or.inr (Or.inr (Or.inr (Or.inl ⟨event, lost, rfl, hf, (Option.some.inj hs).symm⟩)))
  | dispatch =>
    simp only [step] at hs
    split at hs
    · rename_i event rest hp
      exact Or.inr (Or.inr (Or.inr (Or.inr ⟨event, rest, rfl, hp, (Option.some.inj hs).symm⟩)))
    · exact absurd hs (by simp)

@[simp] theorem handle_pending : (handle event h).pending = h.pending := by
  cases event <;> simp only [handle, push, release, timeout] <;> split_ifs <;> rfl

@[simp] theorem handle_held : (handle event h).held = h.held := by
  cases event <;> simp only [handle, push, release, timeout] <;> split_ifs <;> rfl

@[simp] theorem handle_losses : (handle event h).losses = h.losses := by
  cases event <;> simp only [handle, push, release, timeout] <;> split_ifs <;> rfl

/-- No handler takes a call of `ScheduleFactoryReset` back. -/
theorem resets_le_handle : h.resets ≤ (handle event h).resets := by
  cases event with
  | updateLedState => exact Nat.le_refl _
  | other => exact Nat.le_refl _
  | button => simp only [handle, push, release]; split_ifs <;> simp
  | timer => simp only [handle, timeout]; split_ifs <;> simp

theorem offer_losses {lost : Bool} : (h.offer lost event).losses = h.losses + lost.toNat := by
  cases lost <;> rfl

theorem mem_offer {lost : Bool} (he : e ∈ h.pending) : e ∈ (h.offer lost event).pending := by
  unfold offer
  split_ifs
  · exact he
  · exact List.mem_append_left _ he

/-- The steps of the hold count their losses. -/
theorem losses_step (hs : step h a = some h') : h'.losses = h.losses + a.lost.toNat := by
  rcases step_cases hs with ⟨rfl, rfl⟩ | ⟨_, _, rfl, rfl⟩ | ⟨_, rfl, -, rfl⟩ |
    ⟨_, _, rfl, -, rfl⟩ | ⟨_, _, rfl, -, rfl⟩
  · rfl
  · exact offer_losses
  · exact offer_losses
  · exact offer_losses
  · exact handle_losses

/-- Nor does any step. -/
theorem resets_le_step (hs : step h a = some h') : h.resets ≤ h'.resets := by
  have hoffer : ∀ (g : Hold) (lost : Bool) (e : AppEvent), (g.offer lost e).resets = g.resets := by
    intro g lost e
    cases lost <;> rfl
  rcases step_cases hs with ⟨-, rfl⟩ | ⟨_, _, -, rfl⟩ | ⟨_, -, -, rfl⟩ | ⟨_, _, -, -, rfl⟩ |
    ⟨event, rest, -, -, rfl⟩
  · exact Nat.le_refl _
  · rw [hoffer]
  · rw [hoffer]
  · rw [hoffer]
  · exact resets_le_handle (h := { h with pending := rest })

/-- **What is pending stays so until it is dispatched.** -/
theorem mem_pending_step (hs : step h a = some h') (he : e ∈ h.pending) :
    e ∈ h'.pending ∨ a = .dispatch ∧ ∃ rest, h.pending = e :: rest := by
  rcases step_cases hs with ⟨-, rfl⟩ | ⟨_, _, -, rfl⟩ | ⟨_, -, -, rfl⟩ | ⟨_, _, -, -, rfl⟩ |
    ⟨event, rest, rfl, hp, rfl⟩
  · exact Or.inl he
  · exact Or.inl (mem_offer he)
  · exact Or.inl (mem_offer he)
  · exact Or.inl (mem_offer he)
  · rw [hp] at he
    rcases List.mem_cons.1 he with rfl | he
    · exact Or.inr ⟨rfl, rest, hp⟩
    · exact Or.inl (by rw [handle_pending]; exact he)

end Step

/-! ## The refinement -/

open AppTask

variable {cfg : Config} {s s' : AppState} {a : Step} {event : AppEvent}

@[simp] theorem ofApp_onLed {led : Led} {f : LEDWidget → LEDWidget} :
    ofApp (onLed led f s) = ofApp s := rfl

@[simp] theorem ofApp_onFactoryResetLEDs {f : LEDWidget → LEDWidget} :
    ofApp (onFactoryResetLEDs cfg f s) = ofApp s := by
  unfold onFactoryResetLEDs
  induction cfg.board.sFactoryResetLEDs generalizing s with
  | nil => rfl
  | cons led rest ih => rw [List.foldl_cons, ih, ofApp_onLed]

@[simp] theorem ofApp_updateStatusLED : ofApp (updateStatusLED cfg s) = ofApp s := by
  unfold updateStatusLED
  split_ifs <;> rfl

@[simp] theorem ofApp_chipEventHandler {type : DeviceEventType} {mgr : ConnectivityMgr} :
    ofApp (chipEventHandler cfg type mgr s) = ofApp s := by
  cases type <;> simp [chipEventHandler] <;> rfl

/-- A post is offered to the hold, and lost where the queue is full. -/
theorem ofApp_postEvent : ofApp (postEvent event s) = (ofApp s).offer (full s) event := by
  unfold postEvent
  split
  · rename_i queue hput
    obtain ⟨hitems, hfull⟩ := Mailbox.put?_eq_some hput
    simp [ofApp, offer, full, hfull, AppState.pending, hitems]
  · rename_i hput
    have hfull := Mailbox.put?_eq_none_iff.1 hput
    simp [ofApp, offer, full, hfull, AppState.pending]

/-- The two stages of a timeout, without the lights. -/
theorem ofApp_functionTimerEventHandler {x : Expiry} :
    ofApp (functionTimerEventHandler cfg (.timer x) s) = (ofApp s).timeout := by
  unfold functionTimerEventHandler timeout
  simp only [AppEvent.type, ne_eq, not_true_eq_false, if_false]
  by_cases h₁ : s.mFunctionTimerActive ∧ s.mFunction = .softwareUpdate
  · have hfirst : (ofApp s).active ∧ (ofApp s).mFunction = .softwareUpdate := h₁
    rw [if_pos h₁, if_pos hfirst]
    split_ifs
    · rw [ofApp_onFactoryResetLEDs, ofApp_onFactoryResetLEDs]
      rfl
    · rfl
    · rfl
  · have hnotFirst : ¬ ((ofApp s).active ∧ (ofApp s).mFunction = .softwareUpdate) := h₁
    rw [if_neg h₁, if_neg hnotFirst]
    by_cases h₂ : s.mFunctionTimerActive ∧ s.mFunction = .factoryReset
    · have hsecond : (ofApp s).active ∧ (ofApp s).mFunction = .factoryReset := h₂
      rw [if_pos h₂, if_pos hsecond]
      rfl
    · have hnotSecond : ¬ ((ofApp s).active ∧ (ofApp s).mFunction = .factoryReset) := h₂
      rw [if_neg h₂, if_neg hnotSecond]

/-- A cancelled hold, without the lights. -/
theorem ofApp_cancel : ofApp (setFunction .noneSelected (cancelTimer s)) =
    { ofApp s with
      mFunction := .noneSelected, active := false, timer := (ofApp s).timer.stop } := rfl

/-- A button event, without the lights: the three branches of a release
that find the timer active do the same to the hold. -/
theorem ofApp_functionHandler {pinNo : ℕ} {action : AppEventType} :
    ofApp (functionHandler cfg pinNo action s) = handle (.button pinNo action) (ofApp s) := by
  unfold functionHandler
  simp only [handle]
  by_cases hpin : pinNo ≠ FUNCTION_BUTTON
  · rw [if_pos hpin, if_pos hpin]
  rw [if_neg hpin, if_neg hpin]
  -- the guards of the two pushes are one, and so are those of the releases taken together
  by_cases hact : action = .buttonPushed
  · rw [if_pos hact, if_pos hact]
    by_cases h : ¬ s.mFunctionTimerActive ∧ s.mFunction = .noneSelected
    · rw [if_pos h, push,
        if_pos (show ¬ (ofApp s).active ∧ (ofApp s).mFunction = .noneSelected from h)]
      rfl
    · rw [if_neg h, push,
        if_neg (show ¬ (¬ (ofApp s).active ∧ (ofApp s).mFunction = .noneSelected) from h)]
  · rw [if_neg hact, if_neg hact]
    by_cases h : s.mFunctionTimerActive
    · rw [release, if_pos (show (ofApp s).active = true from h)]
      split_ifs <;> simp only [ofApp_cancel, ofApp_updateStatusLED, ofApp_onFactoryResetLEDs,
        ofApp_onLed]
    · rw [release, if_neg (show ¬ (ofApp s).active = true from h), if_neg fun hc => h hc.1,
        if_neg fun hc => h hc.1, if_neg h]

/-- **An event is to the hold what its handler makes of it.** -/
theorem ofApp_dispatchEvent : ofApp (dispatchEvent cfg event s) = handle event (ofApp s) := by
  cases event with
  | button => exact ofApp_functionHandler
  | timer => exact ofApp_functionTimerEventHandler
  | updateLedState => exact ofApp_onLed
  | other => rfl

/-- The event of an edge is the one `ButtonEventHandler` posts. -/
theorem ofApp_buttonEventHandler {buttonState hasChanged : UInt32}
    (h : FUNCTION_BUTTON_MASK &&& hasChanged ≠ 0) :
    ofApp (buttonEventHandler buttonState hasChanged s) =
      (ofApp s).offer (full s)
        (edgeEvent (decide (FUNCTION_BUTTON_MASK &&& buttonState ≠ 0))) := by
  rw [buttonEventHandler, if_pos h, ofApp_postEvent, edgeEvent]
  simp only [decide_eq_true_eq]

/-- **The application refines the hold.** Each of its steps is, to the
hold, the step `actOf` names. -/
theorem hold_step (h : AppTask.step cfg s a = some s') :
    step (ofApp s) (actOf s a) = some (ofApp s') := by
  cases a with
  | buttons buttonState hasChanged =>
    obtain ⟨held, rfl, hheld⟩ := of_step_buttons h
    by_cases hmask : FUNCTION_BUTTON_MASK &&& hasChanged ≠ 0
    · rw [if_pos hmask] at hheld
      obtain ⟨rfl, hedge⟩ := hheld
      rw [actOf, if_pos hmask, ofApp_buttonEventHandler hmask]
      exact if_neg hedge
    · rw [if_neg hmask] at hheld
      rw [actOf, if_neg hmask, buttonEventHandler, if_neg hmask, hheld]
      rfl
  | functionTimer =>
    obtain ⟨harmed, rfl⟩ := of_step_functionTimer h
    rw [functionTimerTimeoutCallback, ofApp_postEvent]
    exact if_pos harmed
  | ledTimer led =>
    -- to the hold this is a post by somebody else, if it posts at all
    obtain ⟨-, rfl⟩ := of_step_ledTimer h
    rw [ledStateTimerHandler, actOf]
    by_cases hcb : s.sStateUpdateCallback
    · rw [if_pos hcb, if_pos (by exact hcb), ledStateUpdateHandler, ofApp_postEvent]
      simp only [onLed, Function.update_self, OneShot.stop_starts]
      rfl
    · rw [if_neg hcb, if_neg (by exact hcb)]
      rfl
  | get =>
    obtain ⟨event, queue, htaken, hget, rfl⟩ := of_step_get h
    simp [actOf, step, ofApp, AppState.pending, htaken, Mailbox.get?_eq_some hget]
  | dispatch =>
    obtain ⟨event, htaken, rfl⟩ := of_step_dispatch h
    rw [ofApp_dispatchEvent]
    simp [actOf, step, ofApp, AppState.pending, htaken]
  | chip =>
    rw [← Option.some.inj h]
    simp [actOf, step]
  | identifyStart =>
    rw [← Option.some.inj h]
    unfold onIdentifyStart actOf step
    split_ifs <;> rfl
  | identifyStop =>
    rw [← Option.some.inj h]
    unfold onIdentifyStop actOf step
    split_ifs <;> rfl
  | led => rw [← Option.some.inj h]; rfl
  | post type =>
    rw [← Option.some.inj h, ofApp_postEvent]
    rfl

/-- The hold begins idle. -/
theorem ofApp_init : ofApp (appTask cfg).init = holdMachine.init := by
  have hid : ∀ s, ofApp (identifyHandlerInit cfg s) = ofApp s := fun s => by
    unfold identifyHandlerInit
    split_ifs <;> rfl
  have hboot : ofApp (boot cfg) = start := rfl
  simp only [appTask, AppTask.init, holdMachine]
  have hstop : ∀ s, ofApp s = start → ofApp (functionTimerInit s) = start := fun s hs => by
    have heq : ofApp (functionTimerInit s) = { ofApp s with timer := (ofApp s).timer.stop } := rfl
    rw [heq, hs]
    rfl
  apply hstop
  split_ifs
  · rw [ofApp_updateStatusLED, ofApp_onFactoryResetLEDs, hid]; exact hboot
  · rw [ofApp_updateStatusLED, hid]; exact hboot
  · exact hboot

/-- Nothing is in the queue when it begins. -/
theorem pending_init : (appTask cfg).init.pending = [] := congrArg pending ofApp_init

/-- What is taken off the queue stands first among the pending. -/
theorem pending_of_taken (ht : s.taken = some event) :
    (ofApp s).pending = event :: s.sAppEventQueue.items := by
  simp only [ofApp, AppState.pending, ht, Option.toList_some, List.singleton_append]

/-- A dispatch hands the hold the event the loop took. -/
theorem ofApp_dispatch (h : AppTask.step cfg s .dispatch = some s') (ht : s.taken = some event) :
    ofApp s' = handle event { ofApp s with pending := s.sAppEventQueue.items } := by
  obtain ⟨e, he, rfl⟩ := of_step_dispatch h
  obtain rfl := Option.some.inj (ht.symm.trans he)
  rw [ofApp_dispatchEvent]
  rfl

/-- Only a dispatch of the application is one to the hold. -/
theorem actOf_ne_dispatch (ha : a ≠ .dispatch) : actOf s a ≠ .dispatch := by
  cases a with
  | buttons => simp only [actOf]; split_ifs <;> simp
  | ledTimer => simp only [actOf]; split_ifs <;> simp
  | dispatch => exact absurd rfl ha
  | _ => simp [actOf]

/-- The event at the head is the one the loop took. -/
theorem dispatches_of_head {rest : List AppEvent} (h : AppTask.step cfg s a = some s')
    (ha : actOf s a = .dispatch) (hp : (ofApp s).pending = event :: rest) :
    s.Dispatches a event := by
  obtain rfl : a = .dispatch := by
    by_contra hne
    exact actOf_ne_dispatch hne ha
  obtain ⟨e, ht, -⟩ := of_step_dispatch h
  rw [pending_of_taken ht] at hp
  exact ⟨rfl, by rw [ht, (List.cons.inj hp).1]⟩

/-- **A run that dropped nothing lost no post at any step.** -/
theorem not_lost {tr : List (Transition AppState Step)} (r : (appTask cfg).Run tr s)
    (hdrop : s.dropped = 0) : ∀ t ∈ tr, (actOf t.src t.act).lost = false := by
  intro t ht
  obtain ⟨_, -, hstep, -⟩ := r.of_mem ht
  have hcount : t.dst.dropped = t.src.dropped + (actOf t.src t.act).lost.toNat :=
    losses_step (hold_step hstep)
  have hle : t.dst.dropped ≤ s.dropped :=
    r.le_of_mem (f := AppState.dropped) (fun h => by
      have := losses_step (hold_step h)
      simp only [ofApp] at this
      omega) ht
  cases hl : (actOf t.src t.act).lost with
  | false => rfl
  | true => rw [hl, Bool.toNat_true] at hcount; omega

/-- **So every run of the application is a run of the hold.** -/
theorem run_ofApp {tr : List (Transition AppState Step)} (r : (appTask cfg).Run tr s) :
    holdMachine.Run (tr.map (Transition.map ofApp actOf)) (ofApp s) :=
  r.map ofApp_init hold_step

end Hold

end SoilSensor
