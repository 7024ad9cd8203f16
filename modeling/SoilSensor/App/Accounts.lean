import Mathlib.Algebra.GroupWithZero.Nat
import SoilSensor.Common.Ledger
import SoilSensor.App.Hold
/-!
# What the queue has taken, and what a reset has cost

Two accounts of a whole run, with nothing assumed of it: the queue may be
full, a release may be lost, an expiry may find a hold it was not meant
for. What the handlers are given is what was accepted, in that order and
each event once, and an event is refused only while ten wait
(`dispatched_in_order`). And whatever becomes of the events, a scheduled
reset has been paid for by a press of the button and two expiries of the
function timer that paid for no other (`reset_paid`).
-/

namespace SoilSensor

open AppTask

/-! ## The queue -/

/-- The event a step posts, if it posts one. -/
def AppState.posts (s : AppState) : Step → List AppEvent
  | .buttons buttonState hasChanged =>
    if FUNCTION_BUTTON_MASK &&& hasChanged ≠ 0 then
      [.button FUNCTION_BUTTON
        (if FUNCTION_BUTTON_MASK &&& buttonState ≠ 0 then .buttonPushed else .buttonReleased)]
    else []
  | .functionTimer => [.timer ⟨s.sFunctionTimer.starts, s.buttonHeld⟩]
  | .ledTimer led =>
    if s.sStateUpdateCallback then [.updateLedState led (s.leds led).mLedTimer.starts] else []
  | .post type => [.other type]
  | _ => []

theorem AppState.posts_buttons {s : AppState} {buttonState hasChanged : UInt32} :
    s.posts (.buttons buttonState hasChanged) = if FUNCTION_BUTTON_MASK &&& hasChanged ≠ 0 then
      [.button FUNCTION_BUTTON
        (if FUNCTION_BUTTON_MASK &&& buttonState ≠ 0 then .buttonPushed else .buttonReleased)]
    else [] := rfl

theorem AppState.posts_ledTimer {s : AppState} {led : Led} : s.posts (.ledTimer led) =
    if s.sStateUpdateCallback then [.updateLedState led (s.leds led).mLedTimer.starts] else [] :=
  rfl

/-- Those the queue had room for. -/
def AppState.accepts (s : AppState) (a : Step) : List AppEvent :=
  if s.sAppEventQueue.Full then [] else s.posts a

/-- Those it had not. -/
def AppState.refuses (s : AppState) (a : Step) : List AppEvent :=
  if s.sAppEventQueue.Full then s.posts a else []

/-- The event a step hands to its handler. -/
def AppState.dispatches (s : AppState) : Step → List AppEvent
  | .dispatch => s.taken.toList
  | _ => []

variable {cfg : Config} {s s' : AppState} {a : Step} {event : AppEvent}
variable {tr : List (Transition AppState Step)}

/-- A post goes behind what is pending, if there is room. -/
theorem pending_postEvent :
    (postEvent event s).pending = s.pending ++ if s.sAppEventQueue.Full then [] else [event] := by
  have hpost : Hold.ofApp (postEvent event s) = _ := Hold.ofApp_postEvent
  have h := congrArg Hold.pending hpost
  simp only [Hold.ofApp, Hold.offer, Hold.full] at h
  by_cases hfull : s.sAppEventQueue.Full
  · simpa [hfull] using h
  · simpa [hfull] using h

/-- And is counted if there is none. -/
theorem dropped_postEvent :
    (postEvent event s).dropped =
      s.dropped + (if s.sAppEventQueue.Full then [event] else []).length := by
  have hpost : Hold.ofApp (postEvent event s) = _ := Hold.ofApp_postEvent
  have h := congrArg Hold.losses hpost
  rw [Hold.offer_losses] at h
  by_cases hfull : s.sAppEventQueue.Full
  · simpa [Hold.ofApp, Hold.full, hfull] using h
  · simpa [Hold.ofApp, Hold.full, hfull] using h

/-- What the hold does not see of a step leaves the queue and its losses. -/
theorem unposted (h : Hold.ofApp s' = Hold.ofApp s) :
    s'.pending = s.pending ∧ s'.dropped = s.dropped :=
  ⟨congrArg Hold.pending h, congrArg Hold.losses h⟩

/-- **What a step does to the queue**: the event it posts, if there was
room, goes behind those pending, and the one it dispatches comes off their
front. -/
theorem queue_step (h : AppTask.step cfg s a = some s') :
    s.pending ++ s.accepts a = s.dispatches a ++ s'.pending ∧
      s'.dropped = s.dropped + (s.refuses a).length := by
  have hquiet : (s.posts a = []) → s.dispatches a = [] → s'.pending = s.pending ∧
      s'.dropped = s.dropped → s.pending ++ s.accepts a = s.dispatches a ++ s'.pending ∧
      s'.dropped = s.dropped + (s.refuses a).length := by
    rintro hp hd ⟨hpend, hdrop⟩
    simp [AppState.accepts, AppState.refuses, hp, hd, hpend, hdrop]
  cases a with
  | buttons buttonState hasChanged =>
    obtain ⟨held, rfl, hheld⟩ := of_step_buttons h
    by_cases hmask : FUNCTION_BUTTON_MASK &&& hasChanged ≠ 0
    · rw [buttonEventHandler, if_pos hmask, pending_postEvent, dropped_postEvent]
      simp only [AppState.accepts, AppState.refuses, AppState.posts_buttons, if_pos hmask]
      exact ⟨rfl, trivial⟩
    · rw [buttonEventHandler, if_neg hmask] at hquiet ⊢
      exact hquiet (by rw [AppState.posts_buttons, if_neg hmask]) rfl ⟨rfl, rfl⟩
  | functionTimer =>
    obtain ⟨-, rfl⟩ := of_step_functionTimer h
    rw [functionTimerTimeoutCallback, pending_postEvent, dropped_postEvent]
    exact ⟨rfl, rfl⟩
  | ledTimer led =>
    obtain ⟨-, rfl⟩ := of_step_ledTimer h
    by_cases hcb : s.sStateUpdateCallback
    · rw [ledStateTimerHandler, if_pos (by exact hcb), ledStateUpdateHandler, pending_postEvent,
        dropped_postEvent]
      simp only [AppState.accepts, AppState.refuses, AppState.posts_ledTimer, if_pos hcb,
        onLed_leds_self, OneShot.stop_starts]
      exact ⟨rfl, rfl⟩
    · have hstop : ledStateTimerHandler led
          (onLed led (fun w => { w with mLedTimer := w.mLedTimer.stop }) s) =
          onLed led (fun w => { w with mLedTimer := w.mLedTimer.stop }) s := if_neg hcb
      rw [hstop] at hquiet ⊢
      exact hquiet (by rw [AppState.posts_ledTimer, if_neg hcb]) rfl ⟨rfl, rfl⟩
  | get =>
    obtain ⟨event, queue, htaken, hget, rfl⟩ := of_step_get h
    have hpend : s.pending = event :: queue.items := by
      simp [AppState.pending, htaken, Mailbox.get?_eq_some hget]
    exact hquiet rfl rfl ⟨hpend.symm, rfl⟩
  | dispatch =>
    obtain ⟨event, ht, -⟩ := of_step_dispatch h
    have hhold := Hold.ofApp_dispatch h ht
    have hpend : s'.pending = s.sAppEventQueue.items :=
      (congrArg Hold.pending hhold).trans Hold.handle_pending
    have hdrop : s'.dropped = s.dropped := (congrArg Hold.losses hhold).trans Hold.handle_losses
    have hposts : s.posts .dispatch = [] := rfl
    have hdispatches : s.dispatches .dispatch = [event] := congrArg Option.toList ht
    rw [hpend, hdrop, hdispatches]
    simp [AppState.accepts, AppState.refuses, hposts, AppState.pending, ht]
  | chip =>
    obtain rfl := Option.some.inj h
    exact hquiet rfl rfl (unposted Hold.ofApp_chipEventHandler)
  | identifyStart =>
    obtain rfl := Option.some.inj h
    refine hquiet rfl rfl (unposted ?_)
    unfold onIdentifyStart
    split_ifs <;> rfl
  | identifyStop =>
    obtain rfl := Option.some.inj h
    refine hquiet rfl rfl (unposted ?_)
    unfold onIdentifyStop
    split_ifs <;> rfl
  | led =>
    obtain rfl := Option.some.inj h
    exact hquiet rfl rfl (unposted Hold.ofApp_onLed)
  | post type =>
    obtain rfl := Option.some.inj h
    rw [pending_postEvent, dropped_postEvent]
    exact ⟨rfl, rfl⟩

open Machine in
/-- What the queue has accepted has been dispatched, or is pending. -/
theorem accepts_of_run {tr : List (Transition AppState Step)} (r : (appTask cfg).Run tr s) :
    through AppState.accepts tr = through AppState.dispatches tr ++ s.pending := by
  have hfifo := r.conserved (c := AppState.pending) fun h => (queue_step h).1
  rw [Hold.pending_init, List.nil_append] at hfifo
  exact hfifo

open Machine in
/-- **The handlers are given what was posted, in its order.** In every run
of the application the events dispatched are those the queue accepted, each
once and the oldest first, up to those still pending; and the others are
counted, none refused but while ten wait. -/
theorem dispatched_in_order (cfg : Config) {tr : List (Transition AppState Step)} {s : AppState}
    (r : (appTask cfg).Run tr s) :
    through AppState.accepts tr = through AppState.dispatches tr ++ s.pending ∧
      s.dropped = (through AppState.refuses tr).length ∧
      ∀ t ∈ tr, t.src.posts t.act = t.src.accepts t.act ++ t.src.refuses t.act ∧
        (t.src.refuses t.act ≠ [] → t.src.sAppEventQueue.items.length = kAppEventQueueSize) := by
  have hnone : (appTask cfg).init.dropped = 0 := congrArg Hold.losses Hold.ofApp_init
  refine ⟨accepts_of_run r, r.counted hnone fun h => (queue_step h).2, fun t _ => ?_⟩
  unfold AppState.accepts AppState.refuses
  by_cases hfull : t.src.sAppEventQueue.Full
  · rw [if_pos hfull, if_pos hfull]
    exact ⟨rfl, fun _ => hfull⟩
  · rw [if_neg hfull, if_neg hfull]
    exact ⟨(List.append_nil _).symm, fun hne => absurd rfl hne⟩

open Machine in
/-- Eleven posts while the loop is busy, the first of them then handled. -/
theorem dispatched_of_full_queue : ∃ tr s, (appTask ⟨.two, true⟩).Run tr s ∧
    (through AppState.dispatches tr).length = 2 ∧ (through AppState.refuses tr).length = 1 ∧
    through AppState.accepts tr = through AppState.dispatches tr ++ s.pending ∧ s.dropped = 1 := by
  obtain ⟨tr, s, r, hd, hr⟩ := (appTask ⟨.two, true⟩).exists_run_of_exec
    (.post .start :: .get :: Machine.repeated 11 [.post .install] ++ [.dispatch, .get, .dispatch])
    (fun tr _ => (through AppState.dispatches tr).length = 2 ∧
      (through AppState.refuses tr).length = 1) (by decide +kernel)
  obtain ⟨hfifo, hdrop, -⟩ := dispatched_in_order _ r
  exact ⟨tr, s, r, hd, hr, hfifo, hdrop.trans hr⟩

/-! ## The cost of a reset -/

namespace Hold

variable {h h' : Hold} {a : Act} {base : Hold → ℕ} {worth : AppEvent → ℕ} {pays : Act → Bool}

/-- **An account of a hold**: what has been bought, and what the events
still waiting are worth. -/
def account (base : Hold → ℕ) (worth : AppEvent → ℕ) (h : Hold) : ℕ :=
  base h + (h.pending.map worth).sum

/-- **An account that balances**: what an event was worth when it was
posted covers what its handler buys with it, and was paid for by the input
that posted it. -/
structure Balanced (base : Hold → ℕ) (worth : AppEvent → ℕ) (pays : Act → Bool) : Prop where
  frame : ∀ {h : Hold} {pending : List AppEvent} {held : Bool} {losses : ℕ},
    base { h with pending := pending, held := held, losses := losses } = base h
  edge : ∀ pressed lost : Bool, worth (edgeEvent pressed) ≤ (pays (.edge pressed lost)).toNat
  expire : ∀ {h : Hold} (lost : Bool) (x : Expiry), h.timer.Armed →
    base { h with timer := h.timer.stop } + worth (.timer x) ≤
      base h + (pays (.expire lost)).toNat
  post : ∀ {event : AppEvent}, foreign event → worth event = 0
  handle : ∀ (event : AppEvent) (h : Hold), base (handle event h) ≤ base h + worth event

/-- A post adds at most what the event is worth: a lost one adds nothing. -/
theorem Balanced.account_offer (hb : Balanced base worth pays) (h : Hold) (lost : Bool)
    (event : AppEvent) :
    account base worth (h.offer lost event) ≤ account base worth h + worth event := by
  have hbase : base (h.offer lost event) = base h := by
    cases lost <;> exact hb.frame
  cases lost with
  | true =>
    simp only [account, hbase]
    exact Nat.le_add_right _ _
  | false =>
    have hpend : (h.offer false event).pending = h.pending ++ [event] := rfl
    rw [account, hbase, hpend, List.map_append, List.sum_append, List.map_singleton,
      List.sum_singleton, account, Nat.add_assoc]

/-- **The steps of a hold raise an account by what they pay.** -/
theorem Balanced.account_step (hb : Balanced base worth pays) (hs : step h a = some h') :
    account base worth h' ≤ account base worth h + (pays a).toNat := by
  rcases step_cases hs with ⟨-, rfl⟩ | ⟨pressed, lost, rfl, rfl⟩ | ⟨lost, rfl, harm, rfl⟩ |
    ⟨event, lost, -, hf, rfl⟩ | ⟨event, rest, -, hp, rfl⟩
  · exact Nat.le_add_right _ _
  · have hoffer := hb.account_offer { h with held := pressed } lost (edgeEvent pressed)
    have hframe : base { h with held := pressed } = base h := hb.frame
    have hedge := hb.edge pressed lost
    simp only [account, hframe] at hoffer ⊢
    omega
  · have hoffer := hb.account_offer { h with timer := h.timer.stop } lost
      (.timer ⟨h.timer.starts, h.held⟩)
    have hexp := hb.expire lost ⟨h.timer.starts, h.held⟩ harm
    simp only [account] at hoffer ⊢
    omega
  · have hoffer := hb.account_offer h lost event
    rw [hb.post hf] at hoffer
    exact hoffer.trans (Nat.le_add_right _ _)
  · have hhandle := hb.handle event { h with pending := rest }
    have hframe : base { h with pending := rest } = base h := hb.frame
    rw [account, account, handle_pending, hp, List.map_cons, List.sum_cons]
    simp only [hframe] at hhandle ⊢
    omega

/-- Two expiries for a reset, and the first of them for an open window. -/
def bought (h : Hold) : ℕ := 2 * h.resets + if h.mFunction = .factoryReset then 1 else 0

/-- The timer expires. -/
def Act.isExpiry : Act → Bool
  | .expire _ => true
  | _ => false

/-- An expiry waiting is worth one. -/
def expiryWorth : AppEvent → ℕ
  | .timer _ => 1
  | _ => 0

theorem balanced_expiries : Balanced bought expiryWorth Act.isExpiry where
  frame := rfl
  edge _ _ := Nat.zero_le _
  expire _ _ _ := Nat.le_refl _
  post {event} hf := by cases event <;> first | rfl | cases hf
  handle event h := by
    cases event with
    | timer =>
      simp only [Hold.handle, timeout, bought, expiryWorth]
      split_ifs <;> (simp_all; try omega)
    | button =>
      simp only [Hold.handle, push, release, bought]
      split_ifs <;> (simp_all; try omega)
    | updateLedState => exact Nat.le_refl _
    | other => exact Nat.le_refl _

/-- One press for a reset, or for the timer that may still lead to one. -/
def begun (h : Hold) : ℕ := h.resets + if h.timer.Armed then 1 else 0

/-- The button goes down. -/
def Act.isPress : Act → Bool
  | .edge pressed _ => pressed
  | _ => false

/-- A push waiting is worth a start of the timer, and an expiry the start
that its handler may make. -/
def pressWorth : AppEvent → ℕ
  | .timer _ => 1
  | .button pinNo action => if pinNo = FUNCTION_BUTTON ∧ action = .buttonPushed then 1 else 0
  | _ => 0

theorem balanced_presses : Balanced begun pressWorth Act.isPress where
  frame := rfl
  edge pressed lost := by cases pressed <;> cases lost <;> decide
  expire {h} _ _ harm := by
    simp only [begun, pressWorth, if_pos harm, OneShot.not_armed_stop, if_false]
    omega
  post {event} hf := by cases event <;> first | rfl | cases hf
  handle event h := by
    cases event with
    | timer =>
      simp only [Hold.handle, timeout, begun, pressWorth]
      split_ifs <;> simp_all
    | button pinNo action =>
      simp only [Hold.handle, push, release, begun, pressWorth]
      split_ifs <;> simp_all
    | updateLedState => exact Nat.le_refl _
    | other => exact Nat.le_refl _

end Hold

namespace AppTask.Step

/-- The function timer expires. -/
def isExpiry : Step → Bool
  | .functionTimer => true
  | _ => false

/-- The function button goes down. -/
def isPress : Step → Bool
  | .buttons buttonState hasChanged =>
    decide (FUNCTION_BUTTON_MASK &&& hasChanged ≠ 0 ∧ FUNCTION_BUTTON_MASK &&& buttonState ≠ 0)
  | _ => false

end AppTask.Step

theorem actOf_isExpiry : (Hold.actOf s a).isExpiry = a.isExpiry := by
  cases a <;> simp only [Hold.actOf] <;> (try split_ifs) <;> rfl

theorem actOf_isPress : (Hold.actOf s a).isPress = a.isPress := by
  cases a with
  | buttons buttonState hasChanged =>
    simp only [Hold.actOf, Step.isPress]
    split_ifs with hmask
    · simp [Hold.Act.isPress, hmask]
    · simp [Hold.Act.isPress, hmask]
  | ledTimer => simp only [Hold.actOf]; split_ifs <;> rfl
  | _ => rfl

/-- Each reset has been paid for by a press of its own. -/
theorem resets_le_presses (r : (appTask cfg).Run tr s) :
    s.scheduledResets ≤ tr.countP fun t => t.act.isPress := by
  have hpaid := r.paid (p := fun _ a => a.isPress)
    (V := fun s => Hold.account Hold.begun Hold.pressWorth (Hold.ofApp s)) fun h => by
      rw [← actOf_isPress]
      exact Hold.balanced_presses.account_step (Hold.hold_step h)
  have hzero : Hold.account Hold.begun Hold.pressWorth holdMachine.init = 0 := by decide
  have hresets : (Hold.ofApp s).resets = s.scheduledResets := rfl
  simp only [Hold.ofApp_init, hzero, Nat.zero_add] at hpaid
  simp only [Hold.account, Hold.begun] at hpaid
  omega

/-- And by two expiries of its own. -/
theorem resets_le_expiries (r : (appTask cfg).Run tr s) :
    2 * s.scheduledResets ≤ tr.countP fun t => t.act.isExpiry := by
  have hpaid := r.paid (p := fun _ a => a.isExpiry)
    (V := fun s => Hold.account Hold.bought Hold.expiryWorth (Hold.ofApp s)) fun h => by
      rw [← actOf_isExpiry]
      exact Hold.balanced_expiries.account_step (Hold.hold_step h)
  have hzero : Hold.account Hold.bought Hold.expiryWorth holdMachine.init = 0 := by decide
  have hresets : (Hold.ofApp s).resets = s.scheduledResets := rfl
  simp only [Hold.ofApp_init, hzero, Nat.zero_add] at hpaid
  simp only [Hold.account, Hold.bought] at hpaid
  omega

/-- **Every reset has been paid for.** In every run of the application, full
queues, lost releases and late expiries included, there have been at least
as many presses of the function button as scheduled resets, and twice as
many expiries of the function timer. -/
theorem reset_paid (cfg : Config) {tr : List (Transition AppState Step)} {s : AppState}
    (r : (appTask cfg).Run tr s) :
    s.scheduledResets ≤ tr.countP (fun t => t.act.isPress) ∧
      2 * s.scheduledResets ≤ tr.countP fun t => t.act.isExpiry :=
  ⟨resets_le_presses r, resets_le_expiries r⟩

/-- The bounds are met with equality by a hold kept to its end. -/
theorem reset_paid_exactly : ∃ tr s, (appTask ⟨.one, true⟩).Run tr s ∧ s.scheduledResets = 1 ∧
    tr.countP (fun t => t.act.isPress) = 1 ∧ (tr.countP fun t => t.act.isExpiry) = 2 ∧
    s.scheduledResets ≤ tr.countP (fun t => t.act.isPress) ∧
    2 * s.scheduledResets ≤ tr.countP fun t => t.act.isExpiry := by
  obtain ⟨tr, s, r, hone, hpress, hexpiry⟩ := (appTask ⟨.one, true⟩).exists_run_of_exec
    [.buttons 1 1, .get, .dispatch, .functionTimer, .get, .dispatch, .functionTimer, .get,
      .dispatch]
    (fun tr s => s.scheduledResets = 1 ∧ tr.countP (fun t => t.act.isPress) = 1 ∧
      (tr.countP fun t => t.act.isExpiry) = 2) (by decide +kernel)
  exact ⟨tr, s, r, hone, hpress, hexpiry, reset_paid _ r⟩

end SoilSensor
