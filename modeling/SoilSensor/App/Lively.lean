import SoilSensor.Common.Fairness
import SoilSensor.App.Blink
import SoilSensor.App.Lamps
import SoilSensor.App.Turn
/-!
# A blink goes on

A blinking widget that is alive has its timer running or an update waiting,
and that is all it needs: if the timer is let expire and the application's
thread is let run, again and again, the expiry comes, its update comes up,
and the pin is toggled. So a widget that blinks toggles for ever, or until
it is operated on by something else than its updates (`blinks_on`).
-/

namespace SoilSensor

open AppTask

variable {cfg : Config} {s s' : AppState} {a : Step} {led : Led}
variable {ss : ℕ → AppState} {as : ℕ → Step}

/-- A step that only updates a widget updates it once. -/
theorem opsOn_of_updates (hop : ∀ op ∈ opsOn led (stepOps cfg s a), op = .updateState) :
    opsOn led (stepOps cfg s a) = [] ∨ opsOn led (stepOps cfg s a) = [.updateState] := by
  cases hops : opsOn led (stepOps cfg s a) with
  | nil => exact .inl rfl
  | cons op ops =>
    have hmem : op ∈ opsOn led (stepOps cfg s a) := by rw [hops]; exact List.mem_cons_self
    obtain rfl := hop op hmem
    rcases mem_stepOps (mem_opsOn.1 hmem) with rfl | ⟨hupdates, -⟩ | ⟨-, hne⟩
    · rw [← hops]
      simp [stepOps, opsOn]
    · rw [← hops]
      exact .inr (opsOn_of_dispatchesUpdate hupdates)
    · exact absurd rfl hne

/-- **A widget that is not operated on** changes only as its timer expires. -/
theorem led_of_not_operated (hstep : AppTask.step cfg s a = some s')
    (hops : opsOn led (stepOps cfg s a) = []) :
    s'.leds led = if a = .ledTimer led then (s.leds led).expire else s.leds led := by
  rw [led_step hstep, hops]
  rfl

/-- **An update toggles the pin of a blinking widget.** -/
theorem LEDWidget.toggled {w : LEDWidget} (hw : w.Phased) (hb : w.Blinking) :
    w.updateState.pin = !w.pin := by
  rw [hw.pin, updateState, if_pos hb]
  rfl

/-- And it goes on blinking, whatever of this happens to it. -/
theorem blinking_step (hstep : AppTask.step cfg s a = some s')
    (hops : ∀ op ∈ opsOn led (stepOps cfg s a), op = .updateState) :
    (s'.leds led).Blinking ↔ (s.leds led).Blinking := by
  rcases opsOn_of_updates hops with hnone | hone
  · rw [led_of_not_operated hstep hnone]
    split_ifs
    · rfl
    · rfl
  · have hno : ∀ l, a ≠ .ledTimer l := by
      rintro l rfl
      cases hone
    rw [Lights.leds_step hno hstep, hone]
    exact LEDWidget.blinking_updateState

/-! ## Endless runs -/

/-- The event is an update for the widget. -/
def AppEvent.updatesLed (led : Led) (event : AppEvent) : Bool := decide (event.Updates led)

section Endless

variable (h : (appTask cfg).Endless ss as)
  (htask : (appTask cfg).Fair ss as fun a => a.isTask = true)
  (htimer : (appTask cfg).Fair ss as fun a => a = .ledTimer led)

include h

include htimer in
/-- **A widget left alone has its timer expire.** -/
theorem timer_expired {n : ℕ} (harm : ((ss n).leds led).mLedTimer.Armed) :
    ∃ k, n ≤ k ∧ (as k = .ledTimer led ∨ opsOn led (stepOps cfg (ss k) (as k)) ≠ []) := by
  refine htimer.soon (P := fun n => ((ss n).leds led).mLedTimer.Armed) ?_ ?_ harm
  · intro n harm
    refine ⟨.ledTimer led, rfl, ?_⟩
    simp [appTask, AppTask.step, harm]
  · intro n harm
    by_cases hops : opsOn led (stepOps cfg (ss n) (as n)) = []
    · by_cases ha : as n = .ledTimer led
      · exact .inl (.inl ha)
      · refine .inr ⟨?_, ha⟩
        rw [led_of_not_operated (h.step n) hops, if_neg ha]
        exact harm
    · exact .inl (.inr hops)

include htask htimer in
/-- **A blinking widget is operated on again.** -/
theorem operated_again (hleds : cfg.stateLeds)
    (hlost : ∀ n, ¬ LosesUpdate led (ss n) (as n)) {n : ℕ} (hb : ((ss n).leds led).Blinking) :
    ∃ k, n ≤ k ∧ opsOn led (stepOps cfg (ss k) (as k)) ≠ [] := by
  have hwaits : ∀ k, (∃ e ∈ (ss k).pending, e.Updates led) →
      ∃ l, k ≤ l ∧ opsOn led (stepOps cfg (ss l) (as l)) ≠ [] := by
    rintro k ⟨e, he, hupdates⟩
    have hwaits : (Hold.ofApp (ss k)).Waits (AppEvent.updatesLed led) :=
      ⟨e, he, decide_eq_true hupdates⟩
    obtain ⟨l, hl, event, ⟨hact, htaken⟩, hevent⟩ := comes_up h htask hwaits
    refine ⟨l, hl, ?_⟩
    rw [opsOn_of_dispatchesUpdate ⟨hact, event, htaken, of_decide_eq_true hevent⟩]
    exact List.cons_ne_nil _ _
  have hsound : ∀ k, LedsReady (ss k) ∧ Alive led (ss k) := fun k =>
    alive_of_none_lost hleds (h.run k) fun t ht => by
      obtain ⟨l, -, rfl⟩ := List.mem_map.1 ht
      exact hlost l
  rcases (hsound n).2 hb with harm | hwaiting
  · obtain ⟨k, hk, hact | hops⟩ := timer_expired h htimer harm
    · -- its update is in the queue, or another one was
      have hstep : AppTask.step cfg (ss k) (.ledTimer led) = some (ss (k + 1)) := hact ▸ h.step k
      obtain ⟨-, -, -, hpend⟩ := ledTimer_step (hsound k).1.callback hstep
      have hnext : ∃ e ∈ (ss (k + 1)).pending, e.Updates led := by
        rw [hpend]
        split_ifs with hfull
        · by_contra hno
          exact hlost k ⟨hact, hfull, fun e he hu => hno ⟨e, he, hu⟩⟩
        · exact ⟨_, List.mem_append_right _ (List.mem_singleton_self _), rfl⟩
      obtain ⟨l, hl, hops⟩ := hwaits (k + 1) hnext
      exact ⟨l, by omega, hops⟩
    · exact ⟨k, hk, hops⟩
  · exact hwaits n hwaiting

end Endless

/-- **A blink goes on.** In every endless run of an application that drives
the LEDs, in which its thread and the timer of a widget each get their turn
again and again and no update of the widget is lost: a widget that blinks
toggles its pin again and again, unless something else than its updates
operates on it. -/
theorem blinks_on (cfg : Config) (hleds : cfg.stateLeds) (led : Led) {ss : ℕ → AppState}
    {as : ℕ → Step} (h : (appTask cfg).Endless ss as)
    (htask : (appTask cfg).Fair ss as fun a => a.isTask = true)
    (htimer : (appTask cfg).Fair ss as fun a => a = .ledTimer led)
    (hlost : ∀ n, ¬ LosesUpdate led (ss n) (as n)) {n : ℕ} (hb : ((ss n).leds led).Blinking) :
    (∃ k, n ≤ k ∧ ∃ op ∈ opsOn led (stepOps cfg (ss k) (as k)), op ≠ .updateState) ∨
      ∀ m, n ≤ m → ∃ k, m ≤ k ∧ ((ss (k + 1)).leds led).pin = !((ss k).leds led).pin := by
  by_cases hother : ∃ k, n ≤ k ∧ ∃ op ∈ opsOn led (stepOps cfg (ss k) (as k)), op ≠ .updateState
  · exact .inl hother
  have honly : ∀ k, n ≤ k → ∀ op ∈ opsOn led (stepOps cfg (ss k) (as k)), op = .updateState := by
    intro k hk op hop
    by_contra hne
    exact hother ⟨k, hk, op, hop, hne⟩
  have hblinking : ∀ d, ((ss (n + d)).leds led).Blinking := by
    intro d
    induction d with
    | zero => exact hb
    | succ d ih => exact (blinking_step (h.step _) (honly _ (Nat.le_add_right n d))).2 ih
  refine .inr fun m hm => ?_
  obtain ⟨d, rfl⟩ := Nat.exists_eq_add_of_le hm
  obtain ⟨k, hk, hops⟩ := operated_again h htask htimer hleds hlost (hblinking d)
  obtain ⟨e, rfl⟩ := Nat.exists_eq_add_of_le (hm.trans hk)
  have hone := (opsOn_of_updates (honly _ (Nat.le_add_right n e))).resolve_left hops
  have hno : ∀ l, as (n + e) ≠ .ledTimer l := by
    intro l hl
    rw [hl] at hone
    cases hone
  refine ⟨n + e, hk, ?_⟩
  rw [Lights.leds_step hno (h.step (n + e)), hone]
  exact LEDWidget.toggled (phased_led_of_run (h.run _)) (hblinking e)

/-- The status LED blinks, its timer and the thread taking turns. -/
def blinkTurns (n : ℕ) : Step :=
  if n % 3 = 0 then .ledTimer .status else if n % 3 = 1 then .get else .dispatch

/-- What is so before each turn. -/
def BlinkTurn (n : ℕ) (s : AppState) : Prop :=
  (s.leds .status).Blinking ∧ s.sStateUpdateCallback = true ∧
    if n % 3 = 0 then (s.leds .status).mLedTimer.Armed ∧ s.pending = []
    else if n % 3 = 1 then
      s.taken = none ∧ ∃ x, s.sAppEventQueue.items = [.updateLedState .status x]
    else s.sAppEventQueue.items = [] ∧ ∃ x, s.taken = some (.updateLedState .status x)

theorem blinkTurn_step (cfg : Config) (n : ℕ) (s : AppState) (h : BlinkTurn n s) :
    ∃ s', AppTask.step cfg s (blinkTurns n) = some s' ∧ BlinkTurn (n + 1) s' := by
  obtain ⟨hb, hcb, hturn⟩ := h
  have hmod : n % 3 = 0 ∨ n % 3 = 1 ∨ n % 3 = 2 := by omega
  rcases hmod with h0 | h1 | h2
  · have hn : (n + 1) % 3 = 1 := by omega
    rw [if_pos h0] at hturn
    obtain ⟨harm, hpend⟩ := hturn
    obtain ⟨htaken, hitems⟩ := List.append_eq_nil_iff.1 hpend
    obtain ⟨s', hs'⟩ : ∃ s', AppTask.step cfg s (.ledTimer .status) = some s' := by
      simp [AppTask.step, harm]
    obtain ⟨-, hleds, hcb', hpend'⟩ := ledTimer_step hcb hs'
    have hroom : ¬ s.sAppEventQueue.Full := by
      intro hfull
      rw [Mailbox.Full, hitems] at hfull
      cases hfull
    have htaken' : s'.taken = none :=
      (taken_step hs' rfl).trans (Option.toList_eq_nil_iff.1 htaken)
    rw [if_neg hroom, hpend, AppState.pending, htaken'] at hpend'
    refine ⟨s', by rw [blinkTurns, if_pos h0]; exact hs', ?_, hcb', ?_⟩
    · rw [hleds, Function.update_self]
      exact hb
    · rw [if_neg (by omega), if_pos hn]
      exact ⟨htaken', _, hpend'⟩
  · rw [if_neg (by omega), if_pos h1] at hturn
    obtain ⟨htaken, x, hitems⟩ := hturn
    cases hget : s.sAppEventQueue.get? with
    | none =>
      rw [Mailbox.get?_eq_none hget] at hitems
      cases hitems
    | some e =>
      have hhead := (Mailbox.get?_eq_some hget).symm.trans hitems
      obtain ⟨hevent, hrest⟩ := List.cons.inj hhead
      refine ⟨{ s with taken := some e.1, sAppEventQueue := e.2 }, ?_, hb, hcb, ?_⟩
      · simp [blinkTurns, h1, AppTask.step, htaken, hget]
      · rw [if_neg (by omega), if_neg (by omega)]
        exact ⟨hrest, x, congrArg some hevent⟩
  · rw [if_neg (by omega), if_neg (by omega)] at hturn
    obtain ⟨hitems, x, htaken⟩ := hturn
    refine ⟨onLed .status .updateState { s with taken := none }, ?_, ?_, hcb, ?_⟩
    · simp [blinkTurns, h2, AppTask.step, htaken, dispatchEvent]
    · rw [onLed_leds_self]
      exact LEDWidget.blinking_updateState.2 hb
    · rw [if_pos (by omega), onLed_leds_self]
      exact ⟨LEDWidget.armed_updateState hb, hitems⟩

/-- A blink that the thread keeps up with, for ever. -/
theorem blinks_on_status : ∃ ss as, (appTask ⟨.two, true⟩).Endless ss as ∧
    ∀ m, ∃ k, m ≤ k ∧ ((ss (k + 1)).leds .status).pin = !((ss k).leds .status).pin := by
  have h0 : BlinkTurn 0 (appTask ⟨.two, true⟩).init := by
    refine ⟨by decide +kernel, by decide +kernel, ?_⟩
    rw [if_pos rfl]
    exact ⟨by decide +kernel, rfl⟩
  have hruns : ∃ ss, (appTask ⟨.two, true⟩).Endless ss blinkTurns :=
    Machine.exists_endless h0 (blinkTurn_step _)
  obtain ⟨ss, h⟩ := hruns
  have hkept := h.kept h0 (blinkTurn_step _)
  have htimer : ∀ n, blinkTurns (3 * n) = .ledTimer .status := fun n => if_pos (by omega)
  have hget : ∀ n, (blinkTurns (3 * n + 1)).isTask = true := by
    intro n
    rw [blinkTurns, if_neg (by omega), if_pos (by omega)]
    rfl
  -- the timer expires over an empty queue, and nothing but updates is dispatched
  have hlost : ∀ n, ¬ LosesUpdate .status (ss n) (blinkTurns n) := by
    rintro n ⟨hact, hfull, -⟩
    obtain ⟨-, -, hturn⟩ := hkept n
    have h0 : n % 3 = 0 := by
      by_contra hne
      rw [blinkTurns, if_neg hne] at hact
      split_ifs at hact
    rw [if_pos h0] at hturn
    rw [Mailbox.Full, (List.append_eq_nil_iff.1 hturn.2).2] at hfull
    cases hfull
  have honly : ∀ n, ∀ op ∈ opsOn .status (stepOps ⟨.two, true⟩ (ss n) (blinkTurns n)),
      op = .updateState := by
    intro n op hop
    obtain ⟨-, -, hturn⟩ := hkept n
    by_cases h0 : n % 3 = 0
    · rw [blinkTurns, if_pos h0] at hop
      cases hop
    by_cases h1 : n % 3 = 1
    · rw [blinkTurns, if_neg h0, if_pos h1] at hop
      cases hop
    · rw [if_neg h0, if_neg h1] at hturn
      obtain ⟨-, x, htaken⟩ := hturn
      rw [blinkTurns, if_neg h0, if_neg h1, stepOps, htaken] at hop
      exact List.mem_singleton.1 hop
  have hgoes := blinks_on ⟨.two, true⟩ rfl .status h (fun n => ⟨3 * n + 1, by omega, .inl (hget n)⟩)
    (fun n => ⟨3 * n, by omega, .inl (htimer n)⟩) hlost (hkept 0).1
  refine ⟨ss, blinkTurns, h, fun m => hgoes.resolve_left ?_ m (Nat.zero_le m)⟩
  rintro ⟨k, -, op, hop, hne⟩
  exact hne (honly k op hop)

end SoilSensor
