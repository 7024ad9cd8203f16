import SoilSensor.App.Kept
import SoilSensor.Reset.Outcome
/-!
# A kept hold is not put off

What the outcome of a hold does not say is that it comes. Of the device this
can be said if nobody is passed over for ever: the application task, the
function timer, the server and the event loop each get their turn
(`Party`). Then what any of them has to do for the hold is done, whatever
else is put in front of it, and a device that goes on without a reset is one
whose button was let go in time (`kept_hold_resets`).
-/

namespace SoilSensor

namespace Device

variable {σ : Type*} {cfg : Config} {p : Stack σ} {items : List Item} {d d' m : Device}
variable {a : Step σ} {ss : ℕ → Device} {as : ℕ → Step σ} {r : ℕ}

/-- Who has a part in a hold. -/
inductive Party
  | task
  | timer
  | server
  | loop
  deriving DecidableEq

/-- Whose step it is, if one of theirs. -/
def Step.party? : Step σ → Option Party
  | .app .get | .app .dispatch => some .task
  | .app .functionTimer => some .timer
  | .answer => some .server
  | .loop (.process _ _) => some .loop
  | _ => none

theorem party_app {b : AppTask.Step} :
    (Step.app b : Step σ).party? = some .task ↔ b.isTask = true := by
  cases b <;> simp [Step.party?, AppTask.Step.isTask]

theorem timer_of_party (h : a.party? = some .timer) : a = .app .functionTimer := by
  unfold Step.party? at h
  split at h <;> first | rfl | cases h

/-! ## The hold in the device -/

/-- What a step of the device is to the hold. -/
def holdAct (d : Device) (a : Step σ) : Hold.Act :=
  match a.app? with
  | some b => Hold.actOf d.app b
  | none => .quiet

/-- The steps of the device are steps of the hold. -/
theorem hold_step (h : Device.step cfg p d a = some d') :
    Hold.step (Hold.ofApp d.app) (holdAct d a) = some (Hold.ofApp d'.app) := by
  rcases step_cases h with ⟨b, app, rfl, happ, rfl⟩ | ⟨rfl, -, rfl⟩ | ⟨b, loop, rfl, -, -, rfl⟩
  · exact Hold.hold_step happ
  · rfl
  · rfl

theorem isExpiry_holdAct : (holdAct d a).isExpiry = a.isExpiry := by
  cases a with
  | app b => exact actOf_isExpiry
  | answer => rfl
  | loop => rfl

theorem edge_holdAct {pressed : Bool} :
    Course.actOf (Hold.ofApp d.app) (holdAct d a) = some (.edge pressed) ↔
      if pressed then a.isPress = true else a.isRelease = true := by
  cases a with
  | app b =>
    refine courseAct_edge.trans ?_
    cases pressed <;> simp [Step.isPress, Step.isRelease, Step.app?]
  | answer =>
    cases pressed <;> simp [holdAct, Step.app?, Course.actOf, Step.isPress, Step.isRelease]
  | loop =>
    cases pressed <;> simp [holdAct, Step.app?, Course.actOf, Step.isPress, Step.isRelease]

/-- After the reset nothing happens. -/
theorem not_reset_of_device_step (h : Device.step cfg p d a = some d') : d.loop.reset = false := by
  cases hr : d.loop.reset with
  | false => rfl
  | true =>
    cases a with
    | app b => simp [Device.step, hr] at h
    | answer => simp [Device.step, hr] at h
    | loop b =>
      rcases step_cases h with ⟨_, _, hb, -⟩ | ⟨hb, -⟩ | ⟨b, loop, -, -, hloop, -⟩
      · cases hb
      · cases hb
      · exact absurd hr (EventLoop.not_reset_of_step hloop)

/-! ## What each party does in its turn -/

section Turns

variable (h : ∀ n, Device.step cfg p (ss n) (as n) = some (ss (n + 1)))
  (hfair : ∀ x : Party, ((device cfg p items).startAt m).Fair ss as fun a => a.party? = some x)

include h hfair

/-- **The task handles a cue that waits.** -/
theorem cue_comes {n : ℕ} (hc : (Hold.ofApp (ss n).app).Waits AppEvent.isCue) : ∃ k, n ≤ k ∧
    Course.actOf (Hold.ofApp (ss k).app) (holdAct (ss k) (as k)) = some .next := by
  refine (hfair .task).eventually
    (P := fun k n => (Hold.ofApp (ss n).app).Waits AppEvent.isCue ∧
      k = AppTask.turn AppEvent.isCue (ss n).app) ?_ ?_ ⟨hc, rfl⟩
  · rintro k n ⟨hc, -⟩
    obtain ⟨b, hb, hsome⟩ := AppTask.task_enabled cfg hc
    refine ⟨.app b, party_app.2 hb, ?_⟩
    simpa [Machine.startAt, device, Device.step, not_reset_of_device_step (h n)] using hsome
  · rintro k n ⟨hc, rfl⟩
    rcases step_cases (h n) with ⟨b, app, hb, happ, hdst⟩ | ⟨hb, -, hdst⟩ |
      ⟨b, loop, hb, -, -, hdst⟩
    · rw [holdAct, hb, hdst]
      rcases AppTask.turn_step hc happ with ⟨event, hevent, hcue⟩ | ⟨hc', hle, hlt⟩
      · exact .inl (next_of_dispatches hevent hcue)
      · exact .inr ⟨_, hle, ⟨hc', rfl⟩, fun ht => hlt (party_app.1 ht)⟩
    · rw [hb, hdst]
      exact .inr ⟨_, Nat.le_refl _, ⟨hc, rfl⟩, fun ht => by cases ht⟩
    · rw [hb, hdst]
      refine .inr ⟨_, Nat.le_refl _, ⟨hc, rfl⟩, fun ht => ?_⟩
      cases b <;> cases ht

/-- **A timer that runs expires**, unless a cue is handled first. -/
theorem timer_comes (hlost : ∀ n, (holdAct (ss n) (as n)).lost = false) {n : ℕ}
    (harm : (ss n).app.sFunctionTimer.Armed) : ∃ k, n ≤ k ∧
    (Course.actOf (Hold.ofApp (ss k).app) (holdAct (ss k) (as k)) = some .expire ∨
      Course.actOf (Hold.ofApp (ss k).app) (holdAct (ss k) (as k)) = some .next) := by
  refine (hfair .timer).soon (P := fun n => (ss n).app.sFunctionTimer.Armed) ?_ ?_ harm
  · intro n harm
    refine ⟨.app .functionTimer, rfl, ?_⟩
    simp [Machine.startAt, device, Device.step, AppTask.step, not_reset_of_device_step (h n), harm]
  · intro n harm
    obtain ⟨-, -, hcourse⟩ :=
      Course.ofHold_step (r := 0) (Nat.zero_le _) (hlost n) (hold_step (h n))
    have hkept : (Course.ofHold 0 (Hold.ofApp (ss (n + 1)).app)).running = true →
        (ss (n + 1)).app.sFunctionTimer.Armed := of_decide_eq_true
    have hrunning : (Course.ofHold 0 (Hold.ofApp (ss n).app)).running = true :=
      decide_eq_true harm
    have htaken : (as n).party? = some .timer →
        Course.actOf (Hold.ofApp (ss n).app) (holdAct (ss n) (as n)) = some .expire := by
      intro hparty
      rw [timer_of_party hparty]
      rfl
    cases hact : Course.actOf (Hold.ofApp (ss n).app) (holdAct (ss n) (as n)) with
    | none =>
      rw [hact] at hcourse htaken
      rw [hcourse] at hkept
      exact .inr ⟨hkept hrunning, fun ht => by cases htaken ht⟩
    | some b =>
      rw [hact] at hcourse htaken
      cases b with
      | edge pressed =>
        rw [← Option.some.inj hcourse] at hkept
        exact .inr ⟨hkept hrunning, fun ht => by cases htaken ht⟩
      | expire => exact .inl (.inl rfl)
      | next => exact .inl (.inr rfl)

/-- **The server answers a call.** -/
theorem answer_comes (hasked : ∀ n, Asked r (ss n)) {n : ℕ}
    (hlt : r < (ss n).app.scheduledResets) : ∃ k, r < (ss k).answered := by
  by_cases hn : r < (ss n).answered
  · exact ⟨n, hn⟩
  have heq : (ss n).answered = r := Nat.le_antisymm (Nat.le_of_not_lt hn) (hasked n).low
  have hcomes : ∃ k, n ≤ k ∧ r < (ss (k + 1)).answered := by
    refine (hfair .server).soon (P := fun n => (ss n).answered = r ∧ r < (ss n).app.scheduledResets)
      ?_ ?_ ⟨heq, hlt⟩
    · rintro n ⟨heq, hlt⟩
      refine ⟨.answer, rfl, ?_⟩
      simp [Machine.startAt, device, Device.step, not_reset_of_device_step (h n), heq, hlt]
    · rintro n ⟨heq, hlt⟩
      rcases step_cases (h n) with ⟨b, app, hb, happ, hdst⟩ | ⟨-, -, hdst⟩ |
        ⟨b, loop, hb, -, -, hdst⟩
      · rw [hb, hdst]
        refine .inr ⟨⟨heq, Nat.lt_of_lt_of_le hlt (scheduledResets_mono happ)⟩, fun ht => ?_⟩
        cases b <;> cases ht
      · refine .inl ?_
        rw [hdst, ← heq]
        exact Nat.lt_succ_self _
      · rw [hb, hdst]
        refine .inr ⟨⟨heq, hlt⟩, fun ht => ?_⟩
        cases b <;> cases ht
  obtain ⟨k, -, hk⟩ := hcomes
  exact ⟨k + 1, hk⟩

/-- **The loop leaves no reset waiting.** -/
theorem not_waiting [Nonempty σ] (hseq : ∀ n, Sequential (ss n).loop) (n : ℕ) :
    resetItem ∉ (ss n).loop.queue.entries.map Prod.snd := by
  intro hmem
  obtain ⟨world⟩ := ‹Nonempty σ›
  obtain ⟨k, hbehind⟩ := mem_iff_behind.1 hmem
  have hcomes : ∃ k, n ≤ k ∧ False := by
    refine (hfair .loop).eventually (P := fun k n => (ss n).loop.Behind k) ?_ ?_ hbehind
    · intro k n hbehind
      refine ⟨.loop (.process world []), rfl, ?_⟩
      have hsome := hbehind.enabled (p := p) (not_reset_of_device_step (h n)) world []
      simpa [Machine.startAt, device, Device.step, fromOthers] using hsome
    · intro k n hbehind
      refine .inr ?_
      rcases step_cases (h n) with ⟨b, app, hb, -, hdst⟩ | ⟨hb, -, hdst⟩ |
        ⟨b, loop, hb, -, hloop, hdst⟩
      · rw [hb, hdst]
        refine ⟨k, Nat.le_refl _, hbehind, fun ht => ?_⟩
        cases b <;> cases ht
      · rw [hb, hdst]
        exact ⟨k, Nat.le_refl _, hbehind.put, fun ht => by cases ht⟩
      · cases b with
        | put item =>
          rw [hb, hdst, EventLoop.of_step_put hloop]
          exact ⟨k, Nat.le_refl _, hbehind.put, fun ht => by cases ht⟩
        | process world' during =>
          rcases hbehind.process (hseq n) hloop with hreset | ⟨j, rfl, hj⟩
          · -- a device that goes on was not reset
            have hnone := not_reset_of_device_step (h (n + 1))
            rw [hdst, hreset] at hnone
            cases hnone
          · rw [hdst]
            exact ⟨j, Nat.le_succ j, hj, fun _ => Nat.lt_succ_self j⟩
  exact hcomes.elim fun _ hk => hk.2

end Turns

end Device

open Device in
/-- **A hold that is kept is not put off.** From any state the device reaches
in which nothing has been begun, let the button be pressed, nothing posted
be lost, and the application task, the function timer, the server and the
event loop each get their turn again and again, whatever happens besides. A
device that goes on like this for ever, without a reset, is one whose button
was let go before the function timer had expired twice. -/
theorem kept_hold_resets {σ : Type*} [Nonempty σ] (cfg : Config) (p : Stack σ) (items : List Item)
    {tr₀ : List (Transition Device (Device.Step σ))} {m : Device} {ss : ℕ → Device}
    {as : ℕ → Device.Step σ} (r₀ : (device cfg p items).Run tr₀ m) (hm : Calm m)
    (h : ((device cfg p items).startAt m).Endless ss as)
    (hfair : ∀ x : Party, ((device cfg p items).startAt m).Fair ss as fun a => a.party? = some x)
    (hdrop : ∀ n, (ss n).app.dropped = m.app.dropped) (hpress : ∃ n, (as n).isPress = true) :
    ∃ n, (as n).isRelease = true ∧ (List.range n).countP (fun k => (as k).isExpiry) < 2 := by
  by_contra hnot
  have hsteps : ∀ n, Device.step cfg p (ss n) (as n) = some (ss (n + 1)) := h.step
  have hstart : ss 0 = m := h.zero
  have hlost : ∀ n, (holdAct (ss n) (as n)).lost = false := by
    intro n
    have hone : (ss (n + 1)).app.dropped =
        (ss n).app.dropped + (holdAct (ss n) (as n)).lost.toNat :=
      Hold.losses_step (hold_step (hsteps n))
    rw [hdrop n, hdrop (n + 1)] at hone
    cases hl : (holdAct (ss n) (as n)).lost with
    | false => rfl
    | true => rw [hl, Bool.toNat_true] at hone; omega
  have hattended : Hold.Attended (fun n => Hold.ofApp (ss n).app) fun n => holdAct (ss n) (as n) :=
    ⟨fun n => hold_step (hsteps n), hlost, fun n hc => cue_comes hsteps hfair hc,
      fun n harm => timer_comes hsteps hfair hlost harm⟩
  have hgains : ∃ n, m.app.scheduledResets < (ss n).app.scheduledResets := by
    refine hattended.gains ?_ ?_ ?_
    · rw [hstart]
      exact Course.held_of_rest hm.idle hm.rest hm.up
    · obtain ⟨n, hn⟩ := hpress
      exact ⟨n, edge_holdAct.2 hn⟩
    · intro n hrelease
      have hcount : Hold.expiries (fun n => holdAct (ss n) (as n)) n =
          (List.range n).countP fun k => (as k).isExpiry :=
        List.countP_congr fun k _ => by rw [isExpiry_holdAct]
      rw [hcount]
      exact Nat.le_of_not_lt fun hlt => hnot ⟨n, edge_holdAct.1 hrelease, hlt⟩
  have hasked : ∀ n, Asked m.answered (ss n) := fun n =>
    (h.run n).invariant (I := Asked m.answered) (hm.asked (sequential_of_run r₀))
      fun hd h => hd.step h
  obtain ⟨n, hn⟩ := hgains
  rw [← hm.answered] at hn
  obtain ⟨k, hk⟩ := answer_comes hsteps hfair hasked hn
  have hnone := not_reset_of_device_step (hsteps k)
  rcases (hasked k).reset_iff.2 hk with hreset | hmem
  · rw [hreset] at hnone
    cases hnone
  · exact not_waiting hsteps hfair (fun n => (hasked n).sequential) k hmem

open Device in
/-- A hold given up at once, and nothing to do ever after. -/
theorem kept_hold_resets_given_up : ∃ ss as,
    ((device ⟨.two, false⟩ (tableStack fun _ => .noError) []).startAt
        (device ⟨.two, false⟩ (tableStack fun _ => .noError) []).init).Endless ss as ∧
      ∃ n, (as n).isRelease = true ∧ (List.range n).countP (fun k => (as k).isExpiry) < 2 := by
  let M := device ⟨.two, false⟩ (tableStack fun _ => .noError) []
  obtain ⟨tr, d, r, hpress, hdrop, hlast, hreset, htaken, hqueue, harm, hcalls, hloop⟩ :=
    (M.startAt M.init).exists_run_of_exec
      [.app (.buttons 1 1), .app .get, .app .dispatch, .app (.buttons 0 1), .app .get,
        .app .dispatch]
      (fun tr d => (∃ t ∈ tr, t.act.isPress = true) ∧ (∀ t ∈ tr, t.src.app.dropped = 0) ∧
        d.app.dropped = 0 ∧ d.loop.reset = false ∧ d.app.taken.isNone ∧
        d.app.sAppEventQueue.items.isEmpty ∧ ¬ d.app.sFunctionTimer.Armed ∧
        d.app.scheduledResets ≤ d.answered ∧ d.loop.queue.entries.isEmpty)
      (by decide +kernel)
  have hstay : M.step d (.app .identifyStop) = some d := by
    simp [M, device, Device.step, AppTask.step, AppTask.onIdentifyStop, hreset]
  obtain ⟨ss, as, h, hrest, htr⟩ := r.endless hstay
  have hidle : ∀ x a, Step.party? a = some x → M.step d a = none := by
    intro x a ha
    have hnothing : d.app.sAppEventQueue.get? = none := by
      cases hget : d.app.sAppEventQueue.get? with
      | none => rfl
      | some e => simp [Mailbox.get?_eq_some hget] at hqueue
    have hnone : d.loop.queue.get? = none := by
      cases hget : d.loop.queue.get? with
      | none => rfl
      | some e => simp [(TicketQueue.get?_eq_some hget).1] at hloop
    have htaken' : d.app.taken = none := Option.isNone_iff_eq_none.1 htaken
    unfold Step.party? at ha
    split at ha
    · simp [M, device, Device.step, AppTask.step, hnothing]
    · simp [M, device, Device.step, AppTask.step, htaken']
    · simp [M, device, Device.step, AppTask.step, harm]
    · simp [M, device, Device.step, hcalls]
    · simp [M, device, Device.step, EventLoop.step, hnone]
    · cases ha
  refine ⟨ss, as, h, kept_hold_resets _ _ _ Machine.Run.init ?_ h (fun x n => ?_) (fun n => ?_) ?_⟩
  · exact ⟨by decide +kernel, by decide +kernel, rfl, rfl, rfl, by decide +kernel⟩
  · refine ⟨max n tr.length, Nat.le_max_left _ _, .inr fun a ha => ?_⟩
    rw [(hrest _ (Nat.le_max_right _ _)).1]
    exact hidle x a ha
  · rcases Nat.lt_or_ge n tr.length with hlt | hge
    · refine hdrop ⟨ss n, as n, ss (n + 1)⟩ ?_
      rw [htr]
      exact List.mem_map.2 ⟨n, List.mem_range.2 hlt, rfl⟩
    · rw [(hrest n hge).1]
      exact hlast
  · obtain ⟨t, ht, hact⟩ := hpress
    rw [htr] at ht
    obtain ⟨k, -, rfl⟩ := List.mem_map.1 ht
    exact ⟨k, hact⟩

end SoilSensor
