import SoilSensor.App.Blink
import Mathlib.Data.List.Nodup
import Mathlib.Data.List.Perm.Subperm
/-!
# Pending toggles

A widget's timer and the updates that wait for the widget are a lamp of
their own, and the application refines it (`lamp_step`). So a widget has one
toggle pending at a time while nothing starts its timer over an update that
waits; and an update that is dispatched to a blinking widget then answers
the last start of the timer, and ends a full phase (`one_toggle_iff`). What
does start the timer over an update is a second `Blink`: it stops the timer,
and cannot recall the update.
-/

namespace SoilSensor

/-- The start of the widget's timer that the event answers. -/
def AppEvent.updateOf (led : Led) : AppEvent → Option ℕ
  | .updateLedState ledWidget start => if ledWidget = led then some start else none
  | _ => none

/-- The widget the event updates. -/
def AppEvent.updated : AppEvent → Option Led
  | .updateLedState ledWidget _ => some ledWidget
  | _ => none

/-- **The updates that wait for a widget**, in the queue or with the loop
that has taken one and not dispatched it. -/
def updates (led : Led) (s : AppState) : List ℕ := s.pending.filterMap (AppEvent.updateOf led)

open AppTask

variable {cfg : Config} {tr : List (Transition AppState Step)} {s s' : AppState} {a : Step}
variable {led : Led} {event : AppEvent}

/-- **A step starts the widget's timer over an update that waits.** -/
def Overtakes (cfg : Config) (led : Led) (s : AppState) (a : Step) : Prop :=
  updates led s ≠ [] ∧ ∃ op ∈ (opsOn led (stepOps cfg s a)).getLast?, op.Starts

instance : Decidable (Overtakes cfg led s a) :=
  inferInstanceAs (Decidable (_ ∧ _))

/-! ## What waits, step by step -/

theorem updates_postEvent : updates led (postEvent event s) = updates led s ++
    if s.sAppEventQueue.Full then [] else (event.updateOf led).toList := by
  have hpend := congrArg Hold.pending (@Hold.ofApp_postEvent s event)
  change (postEvent event s).pending = _ at hpend
  rw [updates, hpend, Hold.offer]
  by_cases hfull : s.sAppEventQueue.Full
  · rw [if_pos hfull, if_pos (show Hold.full s = true from decide_eq_true hfull)]
    exact (List.append_nil _).symm
  · rw [if_neg hfull, if_neg (show ¬ Hold.full s = true from fun h => hfull (of_decide_eq_true h))]
    change (s.pending ++ [event]).filterMap (AppEvent.updateOf led) = _
    rw [List.filterMap_append, List.filterMap_cons]
    cases event.updateOf led <;> rfl

theorem updates_postEvent_of_none (h : event.updateOf led = none) :
    updates led (postEvent event s) = updates led s := by
  rw [updates_postEvent, h]
  split_ifs <;> exact List.append_nil _

/-- Only expiries and dispatches move the updates. -/
theorem updates_step (hl : ∀ l, a ≠ .ledTimer l) (hd : a ≠ .dispatch)
    (hstep : AppTask.step cfg s a = some s') : updates led s' = updates led s := by
  cases a with
  | buttons buttonState hasChanged =>
    obtain ⟨held, rfl, -⟩ := of_step_buttons hstep
    unfold buttonEventHandler
    split_ifs
    · exact updates_postEvent_of_none rfl
    · exact updates_postEvent_of_none rfl
    · rfl
  | functionTimer =>
    obtain ⟨-, rfl⟩ := of_step_functionTimer hstep
    exact updates_postEvent_of_none rfl
  | ledTimer l => exact absurd rfl (hl l)
  | get =>
    obtain ⟨event, queue, htaken, hget, rfl⟩ := of_step_get hstep
    simp [updates, AppState.pending, htaken, Mailbox.get?_eq_some hget]
  | dispatch => exact absurd rfl hd
  | chip type mgr =>
    rw [← Option.some.inj hstep]
    have hpend := congrArg Hold.pending (@Hold.ofApp_chipEventHandler cfg s type mgr)
    exact congrArg (List.filterMap (AppEvent.updateOf led)) hpend
  | identifyStart =>
    rw [← Option.some.inj hstep]
    unfold onIdentifyStart
    split_ifs <;> rfl
  | identifyStop =>
    rw [← Option.some.inj hstep]
    unfold onIdentifyStop
    split_ifs <;> rfl
  | led => rw [← Option.some.inj hstep]; rfl
  | post type =>
    rw [← Option.some.inj hstep]
    exact updates_postEvent_of_none rfl

/-- A dispatch takes its event from the updates it is one of. -/
theorem updates_dispatch (hstep : AppTask.step cfg s .dispatch = some s')
    (ht : s.taken = some event) :
    updates led s = (event.updateOf led).toList ++ updates led s' := by
  have hpend := congrArg Hold.pending (Hold.ofApp_dispatch hstep ht)
  rw [Hold.handle_pending] at hpend
  have hs : s.pending = event :: s.sAppEventQueue.items := Hold.pending_of_taken ht
  change s'.pending = s.sAppEventQueue.items at hpend
  rw [updates, updates, hs, hpend, List.filterMap_cons]
  cases event.updateOf led <;> rfl

/-- The expiry of a widget's timer posts an update for it, if it posts. -/
theorem updates_ledTimer {l : Led} (hstep : AppTask.step cfg s (.ledTimer l) = some s') :
    updates led s' = updates led s ++
      if l = led ∧ s.sStateUpdateCallback ∧ ¬ s.sAppEventQueue.Full then
        [(s.leds led).mLedTimer.starts] else [] := by
  obtain ⟨-, rfl⟩ := of_step_ledTimer hstep
  unfold ledStateTimerHandler ledStateUpdateHandler
  by_cases hcb : s.sStateUpdateCallback
  · rw [if_pos (by exact hcb), updates_postEvent, onLed_leds_self]
    simp only [AppEvent.updateOf, hcb, true_and]
    change updates led s ++ (if s.sAppEventQueue.Full then [] else _) = _
    by_cases hl : l = led
    · subst hl
      by_cases hfull : s.sAppEventQueue.Full <;> simp [hfull]
    · simp [hl]
  · rw [if_neg (by exact hcb), if_neg fun h => hcb h.2.1]
    exact (List.append_nil _).symm

/-! ## The refinement -/

/-- **The lamp of a widget.** -/
def lampOf (led : Led) (s : AppState) : Lamp := ⟨s.leds led, updates led s⟩

/-- What a step of the application is to the lamp. -/
def lampAct (cfg : Config) (led : Led) (s : AppState) (a : Step) : LampAct :=
  if a = .ledTimer led then
    .expire (!s.sStateUpdateCallback || decide s.sAppEventQueue.Full)
  else if DispatchesUpdate led s a then .dispatch
  else .operate (opsOn led (stepOps cfg s a))

/-- An expiry of another widget's timer is nothing to a lamp. -/
theorem lampAct_ledTimer_of_ne {l : Led} (hl : l ≠ led) :
    lampAct cfg led s (.ledTimer l) = .operate [] := by
  have hdisp : ¬ DispatchesUpdate led s (.ledTimer l) := fun h => Step.noConfusion h.1
  rw [lampAct, if_neg fun h => hl (Step.ledTimer.inj h), if_neg hdisp]
  rfl

/-- The update an event asks for is the dispatch's one operation. -/
theorem opsOn_of_dispatchesUpdate (h : DispatchesUpdate led s a) :
    opsOn led (stepOps cfg s a) = [.updateState] := by
  obtain ⟨rfl, event, htaken, hupdates⟩ := h
  cases event with
  | updateLedState ledWidget n =>
    obtain rfl : ledWidget = led := hupdates
    simp [stepOps, Option.mem_def.1 htaken, dispatchOps, opsOn]
  | _ => exact hupdates.elim

/-- Any other step but an expiry leaves the widget's updates. -/
theorem updates_of_not_dispatchesUpdate (hl : ∀ l, a ≠ .ledTimer l)
    (hdisp : ¬ DispatchesUpdate led s a) (hstep : AppTask.step cfg s a = some s') :
    updates led s' = updates led s := by
  by_cases hd : a = .dispatch
  · subst hd
    obtain ⟨event, htaken, -⟩ := of_step_dispatch hstep
    have hnone : event.updateOf led = none := by
      cases event with
      | updateLedState ledWidget n => exact if_neg fun h => hdisp ⟨rfl, _, htaken, h⟩
      | _ => rfl
    rw [updates_dispatch hstep htaken, hnone]
    rfl
  · exact updates_step hl hd hstep

/-- **The application refines the lamp of each widget.** -/
theorem lamp_step {w : LEDWidget} (hstep : AppTask.step cfg s a = some s') :
    (lamp w).step (lampOf led s) (lampAct cfg led s a) = some (lampOf led s') := by
  by_cases htimer : ∃ l, a = .ledTimer l
  · obtain ⟨l, rfl⟩ := htimer
    have harm := (Lights.ofApp_ledTimer hstep).1
    have hleds := Lights.leds_ledTimer hstep
    have hupd := @updates_ledTimer cfg s s' led l hstep
    by_cases hl : l = led
    · subst hl
      rw [lampAct, if_pos rfl, lampOf, lampOf, hleds, Function.update_self, hupd]
      simp only [lamp, if_pos harm, true_and]
      cases s.sStateUpdateCallback <;> by_cases hfull : s.sAppEventQueue.Full <;> simp [hfull]
    · have hw : s'.leds led = s.leds led := by rw [hleds, Function.update_of_ne (Ne.symm hl)]
      rw [if_neg fun h => hl h.1, List.append_nil] at hupd
      rw [lampAct_ledTimer_of_ne hl, lampOf, lampOf, hw, hupd]
      rfl
  · have hne : ∀ l, a ≠ .ledTimer l := fun l h => htimer ⟨l, h⟩
    have hleds : s'.leds led = LedOp.runAll (opsOn led (stepOps cfg s a)) (s.leds led) :=
      Lights.leds_step hne hstep
    rw [lampAct, if_neg (hne led)]
    by_cases hdisp : DispatchesUpdate led s a
    · have hops := @opsOn_of_dispatchesUpdate cfg s a led hdisp
      obtain ⟨rfl, event, htaken, hupdates⟩ := hdisp
      have hupd := @updates_dispatch cfg s s' led event hstep htaken
      cases event with
      | updateLedState ledWidget n =>
        obtain rfl : ledWidget = led := hupdates
        have hpend : updates ledWidget s = n :: updates ledWidget s' := by
          simpa [AppEvent.updateOf] using hupd
        rw [if_pos ⟨rfl, _, htaken, rfl⟩, lampOf, lampOf, hleds, hops]
        simp only [lamp, hpend]
        rfl
      | _ => exact hupdates.elim
    · rw [if_neg hdisp, lampOf, lampOf, hleds, updates_of_not_dispatchesUpdate hne hdisp hstep]
      rfl

theorem lampOf_init : lampOf led (appTask cfg).init = (lamp ((appTask cfg).init.leds led)).init := by
  rw [lampOf, updates, Hold.pending_init]
  rfl

/-- The lamp's part of a run. -/
theorem run_lamp (led : Led) (r : (appTask cfg).Run tr s) :
    (lamp ((appTask cfg).init.leds led)).Run
      (tr.map (Transition.map (lampOf led) (lampAct cfg led))) (lampOf led s) :=
  r.map lampOf_init lamp_step

/-- Widgets are in their phases when `AppTask::Init` is done. -/
theorem phased_init : ((appTask cfg).init.leds led).Phased := by
  have hboot : ((boot cfg).leds led).Phased := by
    cases led with
    | factoryReset i =>
      simp only [boot]
      split
      · exact LEDWidget.phased_init
      · exact LEDWidget.phased_zero
    | _ => exact LEDWidget.phased_zero
  rw [Lights.leds_init]
  exact hboot.runAll

/-! ## What the lamps ask of a step -/

theorem overtakes_iff : (lampOf led s).Overtakes (lampAct cfg led s a) ↔ Overtakes cfg led s a := by
  unfold lampAct
  split_ifs with htimer hdisp
  · subst htimer
    refine iff_of_false id ?_
    rintro ⟨-, op, hop, -⟩
    cases hop
  · refine iff_of_false id ?_
    rintro ⟨-, op, hop, hstart⟩
    rw [opsOn_of_dispatchesUpdate hdisp] at hop
    obtain rfl : .updateState = op := Option.some.inj hop
    exact hstart
  · rfl

/-- Where no other code updates a widget, its lamp is updated by dispatches
only. -/
theorem admitted_lampAct (h : a ≠ .led led .updateState) :
    Lamp.Admitted (lampAct cfg led s a) := by
  unfold lampAct
  split_ifs with htimer hdisp
  · trivial
  · trivial
  · intro hmem
    rcases mem_stepOps (mem_opsOn.1 hmem) with hled | ⟨hd, -⟩ | ⟨-, hno⟩
    · exact h hled
    · exact hdisp hd
    · exact hno rfl

/-- An expiry of the lamp is one of the widget's timer. -/
theorem ledTimer_of_expire {lost : Bool} (h : lampAct cfg led s a = .expire lost) :
    a = .ledTimer led := by
  unfold lampAct at h
  split_ifs at h with htimer
  exact htimer

/-! ## All the widgets -/

/-- The widgets that updates wait for in the queue. -/
def queued (s : AppState) : List Led := s.sAppEventQueue.items.filterMap AppEvent.updated

/-- An update in the queue is one that waits. -/
theorem count_queued_le : (queued s).count led ≤ (updates led s).length := by
  have hcount : ∀ events : List AppEvent, (events.filterMap AppEvent.updated).count led =
      (events.filterMap (AppEvent.updateOf led)).length := by
    intro events
    induction events with
    | nil => rfl
    | cons event events ih =>
      rw [List.filterMap_cons, List.filterMap_cons]
      cases event with
      | updateLedState ledWidget n =>
        by_cases hl : ledWidget = led <;> simp [AppEvent.updated, AppEvent.updateOf, hl, ih]
      | _ => exact ih
  rw [queued, hcount, updates, AppState.pending, List.filterMap_append, List.length_append]
  exact Nat.le_add_left _ _

/-- Nothing is pending for a widget the board does not have. -/
theorem idle_of_notMem (hled : led ∉ boardLEDs cfg) (r : (appTask cfg).Run tr s)
    (hboard : ∀ t ∈ tr, ∀ op, t.act ≠ .led led op) :
    updates led s = [] ∧ ¬ (s.leds led).mLedTimer.Armed := by
  refine r.invariant_of (I := fun s => updates led s = [] ∧ ¬ (s.leds led).mLedTimer.Armed)
    (G := fun _ a => ∀ op, a ≠ .led led op) ?_ ?_ hboard
  · refine ⟨congrArg Lamp.pending lampOf_init, ?_⟩
    rw [Lights.leds_init, handled_initOps.opsOn_eq_nil hled]
    exact not_blinking_boot.2
  · intro s a s' hidle hother hstep
    have hops : ¬ DispatchesUpdate led s a → opsOn led (stepOps cfg s a) = [] := by
      refine fun hno => List.eq_nil_iff_forall_not_mem.2 fun op hop => ?_
      rcases mem_stepOps (mem_opsOn.1 hop) with hact | ⟨hd, -⟩ | ⟨hmem, -⟩
      · exact hother op hact
      · exact hno hd
      · exact hled hmem
    -- so its lamp does not move: nothing of it runs or waits
    have hsame : lampOf led s' = lampOf led s := by
      obtain ⟨ops, hact, heq⟩ | ⟨_, -, harm, -⟩ | ⟨n, rest, -, hp, -⟩ :=
        Lamp.step_cases (@lamp_step cfg s s' a led (s.leds led) hstep)
      · unfold lampAct at hact
        split_ifs at hact with htimer hdisp
        obtain rfl : opsOn led (stepOps cfg s a) = ops := LampAct.operate.inj hact
        rw [heq, hops hdisp]
        rfl
      · exact absurd harm hidle.2
      · exact absurd (hidle.1.symm.trans hp) (List.cons_ne_nil n rest).symm
    have hw : s'.leds led = s.leds led := congrArg Lamp.widget hsame
    refine ⟨(congrArg Lamp.pending hsame).trans hidle.1, ?_⟩
    rw [hw]
    exact hidle.2

/-- **One toggle at a time.** In every run of the application in which
widgets are updated by dispatches only, a widget has at most one toggle
pending in every state exactly when no step starts its timer over an update
that waits; where no step does, an update dispatched to a blinking widget
answers the last start of the timer, and its expiry ended the phase the
widget is in; and where that is so of all of them, the updates in the queue
are no more than the widgets. -/
theorem one_toggle_iff (cfg : Config) {tr : List (Transition AppState Step)} {s : AppState}
    (r : (appTask cfg).Run tr s) (hupdate : ∀ t ∈ tr, ∀ led, t.act ≠ .led led .updateState) :
    (∀ led, (∀ x ∈ (appTask cfg).visited tr,
        (updates led x).length + (if (x.leds led).mLedTimer.Armed then 1 else 0) ≤ 1) ↔
      ∀ t ∈ tr, ¬ Overtakes cfg led t.src t.act) ∧
    (∀ led, (∀ t ∈ tr, ¬ Overtakes cfg led t.src t.act) → ∀ tr₁ t tr₂ n, tr = tr₁ ++ t :: tr₂ →
      t.src.Dispatches t.act (.updateLedState led n) → (t.src.leds led).Blinking →
      n = (t.src.leds led).mLedTimer.starts ∧ ∃ u ∈ tr₁, u.act = .ledTimer led ∧
        (u.src.leds led).mLedTimer = ⟨some (t.src.leds led).phaseTime, n⟩) ∧
    ((∀ led, ∀ t ∈ tr, ¬ Overtakes cfg led t.src t.act) →
      (∀ t ∈ tr, ∀ led op, t.act = .led led op → led ∈ boardLEDs cfg) →
      ∀ x ∈ (appTask cfg).visited tr, (queued x).length ≤ (boardLEDs cfg).length) := by
  have hadmitted : ∀ led, ∀ t ∈ tr.map (Transition.map (lampOf led) (lampAct cfg led)),
      Lamp.Admitted t.act := by
    intro led t ht
    obtain ⟨u, hu, rfl⟩ := List.mem_map.1 ht
    exact admitted_lampAct (hupdate u hu led)
  have hsingle : ∀ led, (∀ x ∈ (appTask cfg).visited tr, (lampOf led x).load ≤ 1) ↔
      ∀ t ∈ tr, ¬ Overtakes cfg led t.src t.act := by
    intro led
    have hiff := Lamp.single_iff (run_lamp led r) (hadmitted led)
    rw [Machine.visited_map lampOf_init, List.forall_mem_map, List.forall_mem_map] at hiff
    exact hiff.trans (forall₂_congr fun t _ => not_congr overtakes_iff)
  refine ⟨hsingle, ?_, ?_⟩
  · intro led hno tr₁ t tr₂ n h hdisp hb
    obtain ⟨r₁, -⟩ := r.split h
    have hsub : ∀ u ∈ tr₁, u ∈ tr := fun u hu => h ▸ List.mem_append_left _ hu
    have hans := Lamp.answers_of_run phased_init (run_lamp led r₁)
      (List.forall_mem_map.2 fun u hu => admitted_lampAct (hupdate u (hsub u hu) led))
      (List.forall_mem_map.2 fun u hu hov => hno u (hsub u hu) (overtakes_iff.1 hov))
    have hwaits : n ∈ updates led t.src := by
      rw [updates, AppState.pending, hdisp.2]
      simp [AppEvent.updateOf]
    obtain ⟨hn, v, hv, ⟨lost, hact⟩, htimer⟩ := hans.expired hb n hwaits
    obtain ⟨u, hu, rfl⟩ := List.mem_map.1 hv
    exact ⟨hn, u, hu, ledTimer_of_expire hact, htimer⟩
  · intro hno hboard x hx
    obtain ⟨tr₁, r₁, hsub⟩ := r.of_mem_visited hx
    have hcount : ∀ led, (queued x).count led ≤ 1 := fun led =>
      (count_queued_le.trans (Nat.le_add_right _ _)).trans ((hsingle led).2 (hno led) x hx)
    refine ((List.nodup_iff_count_le_one.2 hcount).subperm fun led hled => ?_).length_le
    by_contra hnot
    have hidle := idle_of_notMem hnot r₁ fun t ht op hact => hnot (hboard t (hsub t ht) led op hact)
    have hle := @count_queued_le x led
    rw [hidle.1, List.length_nil] at hle
    exact absurd (List.count_pos_iff.2 hled) (by omega)

/-- **Two toggles at once**: the status LED's timer expires, and before the
update is dispatched a platform event makes it blink again. -/
theorem two_toggles :
    ¬ ∀ (cfg : Config) (tr : List (Transition AppState Step)) (s : AppState),
      (appTask cfg).Run tr s → (∀ t ∈ tr, ∀ led, t.act ≠ .led led .updateState) → s.dropped = 0 →
      ∀ led, ∀ x ∈ (appTask cfg).visited tr,
        (x.sAppEventQueue.items.filterMap (AppEvent.updateOf led)).length +
          (if (x.leds led).mLedTimer.Armed then 1 else 0) ≤ 1 := by
  intro hall
  obtain ⟨tr, s, r, hact, hdrop, htwo⟩ := (appTask ⟨.two, true⟩).exists_run_of_exec
    [.ledTimer .status, .chip .kCHIPoBLEAdvertisingChange ⟨0, false, false, false, false⟩]
    (fun tr s => (∀ t ∈ tr, t.act = .ledTimer .status ∨ t.act =
        .chip .kCHIPoBLEAdvertisingChange ⟨0, false, false, false, false⟩) ∧ s.dropped = 0 ∧
      ¬ (s.sAppEventQueue.items.filterMap (AppEvent.updateOf .status)).length +
        (if (s.leds .status).mLedTimer.Armed then 1 else 0) ≤ 1) (by decide +kernel)
  refine htwo (hall _ tr s r (fun t ht led hled => ?_) hdrop .status s r.mem_visited)
  rcases hact t ht with h | h <;> cases h.symm.trans hled

/-- A blink the task keeps up with, and a platform event after its update
is dispatched. -/
theorem one_toggle_of_dispatched : ∃ tr s, (appTask ⟨.two, true⟩).Run tr s ∧ tr.length = 5 ∧
    ∀ x ∈ (appTask ⟨.two, true⟩).visited tr, (updates .status x).length +
      (if (x.leds .status).mLedTimer.Armed then 1 else 0) ≤ 1 := by
  obtain ⟨tr, s, r, hlen, hact, hno⟩ := (appTask ⟨.two, true⟩).exists_run_of_exec
    [.ledTimer .status, .get, .dispatch,
      .chip .kCHIPoBLEAdvertisingChange ⟨0, false, false, false, false⟩, .ledTimer .status]
    (fun tr _ => tr.length = 5 ∧
      (∀ t ∈ tr, t.act ∈ [.ledTimer .status, .get, .dispatch,
        .chip .kCHIPoBLEAdvertisingChange ⟨0, false, false, false, false⟩]) ∧
      ∀ t ∈ tr, ¬ Overtakes ⟨.two, true⟩ .status t.src t.act) (by decide +kernel)
  refine ⟨tr, s, r, hlen, ((one_toggle_iff _ r fun t ht led hled => ?_).1 .status).2 hno⟩
  have hmem := hact t ht
  rw [hled] at hmem
  simp at hmem

end SoilSensor
