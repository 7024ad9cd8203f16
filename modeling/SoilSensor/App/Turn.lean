import SoilSensor.Common.Fairness
import SoilSensor.App.Accounts
/-!
# Everything in its turn

The application handles its events in the order they were posted, and how
many steps of its own thread that takes, before one of a kind comes up, is
`AppTask.turn`. Nothing another thread does puts the event off
(`AppTask.turn_step`), and the thread has always something to do until it
comes up (`AppTask.task_enabled`). So it does come up, if the thread is let
run again and again (`AppTask.comes_up`).

Of all there is in the queue at a time, the thread has handled the last
when it has made one step more than twice the places of the queue
(`handled_in_turn`).
-/

namespace SoilSensor

namespace Hold

variable {h h' : Hold} {a : Act} {event : AppEvent} {p : AppEvent → Bool}

/-- An event of the kind waits. -/
def Waits (p : AppEvent → Bool) (h : Hold) : Prop := ∃ e ∈ h.pending, p e = true

/-- How many events wait ahead of the first of the kind. -/
def ahead (p : AppEvent → Bool) (h : Hold) : ℕ := h.pending.findIdx p

/-- What is posted comes behind it. -/
theorem Waits.offer {lost : Bool} (hw : h.Waits p) :
    (h.offer lost event).Waits p ∧ (h.offer lost event).ahead p = h.ahead p := by
  cases lost with
  | true => exact ⟨hw, rfl⟩
  | false =>
    have hpending : (h.offer false event).pending = h.pending ++ [event] := rfl
    have hlt : h.ahead p < h.pending.length := List.findIdx_lt_length_of_exists hw
    obtain ⟨e, he, hkind⟩ := hw
    refine ⟨⟨e, ?_, hkind⟩, ?_⟩
    · rw [hpending]
      exact List.mem_append_left _ he
    · rw [ahead, hpending, List.findIdx_append]
      exact if_pos hlt

/-- **An event is reached in its turn**: only a dispatch takes anything off
those ahead of it, and takes one. -/
theorem Waits.step (hw : h.Waits p) (hs : Hold.step h a = some h') :
    (a = .dispatch ∧ ∃ e rest, h.pending = e :: rest ∧ p e = true) ∨
      h'.Waits p ∧ h.ahead p = h'.ahead p + if a = .dispatch then 1 else 0 := by
  rcases step_cases hs with ⟨rfl, rfl⟩ | ⟨pressed, lost, rfl, rfl⟩ | ⟨lost, rfl, -, rfl⟩ |
    ⟨event, lost, rfl, -, rfl⟩ | ⟨event, rest, rfl, hp, rfl⟩
  · exact .inr ⟨hw, rfl⟩
  · have hpost : ({ h with held := pressed } : Hold).Waits p := hw
    exact .inr ⟨hpost.offer.1, hpost.offer.2.symm⟩
  · have hpost : ({ h with timer := h.timer.stop } : Hold).Waits p := hw
    exact .inr ⟨hpost.offer.1, hpost.offer.2.symm⟩
  · exact .inr ⟨hw.offer.1, hw.offer.2.symm⟩
  · cases hkind : p event with
    | true => exact .inl ⟨rfl, event, rest, hp, hkind⟩
    | false =>
      refine .inr ⟨?_, ?_⟩
      · obtain ⟨e, he, hkind'⟩ := hw
        rw [hp] at he
        rcases List.mem_cons.1 he with rfl | he
        · rw [hkind] at hkind'
          cases hkind'
        · exact ⟨e, by rw [handle_pending]; exact he, hkind'⟩
      · rw [ahead, ahead, handle_pending, hp, List.findIdx_cons, hkind, if_pos rfl]
        rfl

end Hold

namespace AppTask

variable {cfg : Config} {s s' : AppState} {a : Step} {event : AppEvent} {p : AppEvent → Bool}

/-- A step of the application's own thread. -/
def Step.isTask : Step → Bool
  | .get | .dispatch => true
  | _ => false

theorem taken_postEvent : (postEvent event s).taken = s.taken := by
  unfold postEvent
  split <;> rfl

@[simp] theorem taken_updateStatusLED : (updateStatusLED cfg s).taken = s.taken := by
  unfold updateStatusLED
  split_ifs <;> rfl

@[simp] theorem taken_onFactoryResetLEDs {f : LEDWidget → LEDWidget} :
    (onFactoryResetLEDs cfg f s).taken = s.taken := by
  unfold onFactoryResetLEDs
  induction cfg.board.sFactoryResetLEDs generalizing s with
  | nil => rfl
  | cons led leds ih => exact ih

/-- Nor does a handler: it posts nothing and takes nothing. -/
theorem taken_dispatchEvent : (dispatchEvent cfg event s).taken = s.taken := by
  cases event with
  | button pinNo action =>
    simp only [dispatchEvent, functionHandler]
    split_ifs <;> simp [setFunction, startTimer, cancelTimer, onLed]
  | timer =>
    simp only [dispatchEvent, functionTimerEventHandler]
    split_ifs <;> simp [setFunction, startTimer, scheduleFactoryReset, onLed]
  | updateLedState => rfl
  | other => rfl

/-- Nobody else takes an event off the queue. -/
theorem taken_step (h : step cfg s a = some s') (ha : a.isTask = false) : s'.taken = s.taken := by
  cases a with
  | buttons buttonState hasChanged =>
    obtain ⟨held, rfl, -⟩ := of_step_buttons h
    rw [buttonEventHandler]
    by_cases hmask : FUNCTION_BUTTON_MASK &&& hasChanged ≠ 0
    · rw [if_pos hmask]
      exact taken_postEvent
    · rw [if_neg hmask]
  | functionTimer =>
    obtain ⟨-, rfl⟩ := of_step_functionTimer h
    exact taken_postEvent
  | ledTimer led =>
    obtain ⟨-, rfl⟩ := of_step_ledTimer h
    unfold ledStateTimerHandler
    split_ifs
    · exact taken_postEvent
    · rfl
  | get => exact absurd ha Bool.noConfusion
  | dispatch => exact absurd ha Bool.noConfusion
  | chip type mgr =>
    obtain rfl := Option.some.inj h
    cases type <;> first | exact taken_updateStatusLED | rfl
  | identifyStart =>
    obtain rfl := Option.some.inj h
    unfold onIdentifyStart
    split_ifs <;> rfl
  | identifyStop =>
    obtain rfl := Option.some.inj h
    unfold onIdentifyStop
    split_ifs <;> rfl
  | led =>
    obtain rfl := Option.some.inj h
    rfl
  | post =>
    obtain rfl := Option.some.inj h
    exact taken_postEvent

/-- The steps of the thread until the first event of the kind comes up. -/
def turn (p : AppEvent → Bool) (s : AppState) : ℕ :=
  2 * (Hold.ofApp s).ahead p + if s.taken.isNone then 1 else 0

/-- **No step puts the event off**, and a step of the thread brings it
nearer. -/
theorem turn_step (hw : (Hold.ofApp s).Waits p) (h : step cfg s a = some s') :
    (∃ event, s.Dispatches a event ∧ p event = true) ∨
      (Hold.ofApp s').Waits p ∧ turn p s' ≤ turn p s ∧
        (a.isTask = true → turn p s' < turn p s) := by
  rcases hw.step (Hold.hold_step h) with ⟨hact, event, rest, hp, hkind⟩ | ⟨hw', hahead⟩
  · exact .inl ⟨event, Hold.dispatches_of_head h hact hp, hkind⟩
  · refine .inr ⟨hw', ?_⟩
    by_cases ha : a = .dispatch
    · obtain ⟨event, htaken, -⟩ := of_step_dispatch (ha ▸ h)
      have hone : (Hold.ofApp s).ahead p = (Hold.ofApp s').ahead p + 1 := by
        rw [hahead, ha]
        rfl
      have hlt : turn p s' < turn p s := by
        have hnot : ¬ s.taken.isNone = true := by simp [htaken]
        rw [turn, turn, hone, if_neg hnot]
        split_ifs <;> omega
      exact ⟨Nat.le_of_lt hlt, fun _ => hlt⟩
    · rw [if_neg (Hold.actOf_ne_dispatch ha), Nat.add_zero] at hahead
      by_cases hget : a = .get
      · obtain ⟨event, queue, htaken, -, rfl⟩ := of_step_get (hget ▸ h)
        have hlt : turn p { s with taken := some event, sAppEventQueue := queue } < turn p s := by
          unfold turn
          rw [← hahead, htaken]
          exact Nat.lt_succ_self _
        exact ⟨Nat.le_of_lt hlt, fun _ => hlt⟩
      · have htask : a.isTask = false := by
          cases a <;> first | rfl | exact absurd rfl hget | exact absurd rfl ha
        have hsame : turn p s' = turn p s := by
          rw [turn, turn, ← hahead, taken_step h htask]
        exact ⟨Nat.le_of_eq hsame, fun h' => by rw [htask] at h'; cases h'⟩

/-- The thread has something to do while an event waits. -/
theorem task_enabled (cfg : Config) (hw : (Hold.ofApp s).Waits p) :
    ∃ a, a.isTask = true ∧ (step cfg s a).isSome = true := by
  obtain ⟨e, he, -⟩ := hw
  cases htaken : s.taken with
  | some event =>
    refine ⟨.dispatch, rfl, ?_⟩
    simp [step, htaken]
  | none =>
    refine ⟨.get, rfl, ?_⟩
    have hitems : e ∈ s.sAppEventQueue.items := by
      simpa [Hold.ofApp, AppState.pending, htaken] using he
    cases hget : s.sAppEventQueue.get? with
    | some e => simp [step, htaken, hget]
    | none =>
      rw [Mailbox.get?_eq_none hget] at hitems
      cases hitems

/-- **An event that waits comes up**, where the thread gets its turn. -/
theorem comes_up {ss : ℕ → AppState} {as : ℕ → Step} (h : (appTask cfg).Endless ss as)
    (htask : (appTask cfg).Fair ss as fun a => a.isTask = true) {n : ℕ}
    (hw : (Hold.ofApp (ss n)).Waits p) :
    ∃ k, n ≤ k ∧ ∃ event, (ss k).Dispatches (as k) event ∧ p event = true := by
  refine htask.eventually
    (P := fun k n => (Hold.ofApp (ss n)).Waits p ∧ k = turn p (ss n)) ?_ ?_ ⟨hw, rfl⟩
  · rintro k n ⟨hw, -⟩
    exact task_enabled cfg hw
  · rintro k n ⟨hw, rfl⟩
    rcases turn_step hw (h.step n) with hdone | ⟨hw', hle, hlt⟩
    · exact .inl hdone
    · exact .inr ⟨_, hle, ⟨hw', rfl⟩, hlt⟩

/-! ## The turns of the thread -/

/-- **A step of the thread** takes an event or hands it on, and nothing
else changes whether there is one in between. -/
theorem isTask_step (h : step cfg s a = some s') :
    a.isTask.toNat + s.taken.toList.length =
      2 * (s.dispatches a).length + s'.taken.toList.length := by
  by_cases hget : a = .get
  · obtain ⟨event, queue, htaken, -, rfl⟩ := of_step_get (hget ▸ h)
    rw [hget, htaken]
    rfl
  by_cases hdispatch : a = .dispatch
  · obtain ⟨event, htaken, rfl⟩ := of_step_dispatch (hdispatch ▸ h)
    rw [hdispatch, AppState.dispatches, htaken, taken_dispatchEvent]
    rfl
  · have htask : a.isTask = false := by
      cases a <;> first | rfl | exact absurd rfl hget | exact absurd rfl hdispatch
    have hnone : s.dispatches a = [] := by
      cases a <;> first | rfl | exact absurd rfl hdispatch
    rw [htask, hnone, taken_step h htask]
    simp

open Machine

variable {tr tr' : List (Transition AppState Step)}

/-- **Two steps an event**, and one for an event that is taken. -/
theorem isTask_of_run (r : (appTask cfg).Run tr s) :
    tr.countP (fun t => t.act.isTask) =
      2 * (through AppState.dispatches tr).length + s.taken.toList.length := by
  induction r with
  | init =>
    rw [(List.append_eq_nil_iff.1 (@Hold.pending_init cfg)).1]
    rfl
  | @snoc tr s s' a r h ih =>
    have hone := isTask_step h
    rw [List.countP_append, ih, through_snoc, List.length_append, List.countP_singleton]
    dsimp only
    cases htask : a.isTask with
    | true =>
      rw [htask, Bool.toNat_true] at hone
      rw [if_pos rfl]
      omega
    | false =>
      rw [htask, Bool.toNat_false] at hone
      rw [if_neg Bool.false_ne_true]
      omega

end AppTask

open AppTask Machine in
/-- **Everything is handled in its turn.** Of the events the queue has
accepted by a time, the last has been handled when the thread has made 21
steps more, whatever is posted meanwhile, and handled in the order they were
accepted; and the thread can make a step wherever an event waits. -/
theorem handled_in_turn (cfg : Config) {tr tr' : List (Transition AppState Step)} {s : AppState}
    (r : (appTask cfg).Run (tr ++ tr') s) :
    (2 * kAppEventQueueSize + 1 ≤ tr'.countP (fun t => t.act.isTask) →
        through AppState.accepts tr <+: through AppState.dispatches (tr ++ tr')) ∧
      (s.pending ≠ [] → ∃ a, a.isTask = true ∧ (AppTask.step cfg s a).isSome = true) := by
  refine ⟨fun hturns => ?_, fun hwaits => ?_⟩
  · obtain ⟨t, rest, rfl⟩ : ∃ t rest, tr' = t :: rest := by
      refine List.exists_cons_of_ne_nil fun hnil => ?_
      rw [hnil] at hturns
      cases hturns
    obtain ⟨r₁, -⟩ := r.split rfl
    have hall := accepts_of_run r
    -- no more are pending than the queue holds, and the one that is taken
    have hpending : t.src.pending.length ≤ t.src.taken.toList.length + kAppEventQueueSize := by
      rw [AppState.pending, List.length_append]
      exact Nat.add_le_add_left t.src.sAppEventQueue.bounded _
    have hbefore := isTask_of_run r₁
    have hafter := isTask_of_run r
    rw [List.countP_append, hbefore] at hafter
    have hone : ∀ x : AppState, x.taken.toList.length ≤ 1 := fun _ => Option.length_toList_le
    have hsrc := hone t.src
    have hend := hone s
    have hlen : (through AppState.accepts tr).length ≤
        (through AppState.dispatches (tr ++ t :: rest)).length := by
      rw [accepts_of_run r₁, List.length_append]
      omega
    refine List.prefix_of_prefix_length_le ?_ (hall ▸ List.prefix_append _ _) hlen
    rw [through, through, List.flatMap_append]
    exact List.prefix_append _ _
  · obtain ⟨e, he⟩ := List.exists_mem_of_ne_nil _ hwaits
    exact task_enabled cfg (p := fun _ => true) ⟨e, he, rfl⟩

open AppTask Machine in
/-- A full queue behind an event that is taken, and no step to spare. -/
theorem handled_in_turn_of_full : ∃ tr tr' s, (appTask ⟨.two, true⟩).Run (tr ++ tr') s ∧
    (through AppState.accepts tr).length = 11 ∧
    (tr'.countP fun t => t.act.isTask) = 21 ∧
    through AppState.accepts tr <+: through AppState.dispatches (tr ++ tr') := by
  obtain ⟨tr, s, r, haccepts, hturns⟩ := (appTask ⟨.two, true⟩).exists_run_of_exec
    (.post .start :: .get :: Machine.repeated 10 [.post .install] ++
      .dispatch :: Machine.repeated 10 [.get, .dispatch])
    (fun tr _ => (through AppState.accepts (tr.take 12)).length = 11 ∧
      ((tr.drop 12).countP fun t => t.act.isTask) = 21) (by decide +kernel)
  rw [← List.take_append_drop 12 tr] at r
  exact ⟨_, _, s, r, haccepts, hturns,
    (handled_in_turn _ r).1 (Nat.le_of_eq hturns.symm)⟩

end SoilSensor
