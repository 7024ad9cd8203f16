import SoilSensor.App.Hold
/-!
# The three stages of the function button

The pair `(mFunction, mFunctionTimerActive)` is read as one of three
stages, and two of them share a value of `mFunction`. What keeps them
apart is that a hold which ends leaves both members at idle. A release
does; the branch that schedules the reset clears `mFunction` and not the
flag, and leaves the pair of a pending trigger with no timer behind it.
`stages_sound_iff` says that this branch is all that goes wrong: a run that
loses no event is sound at every step exactly when it never takes it.
-/

namespace SoilSensor

/-- **The meanings of the pair.** -/
inductive Stage
  | idle
  | triggerPending
  | cancelWindow
  deriving DecidableEq

/-- The values of `mFunction` and `mFunctionTimerActive` in a stage. -/
def Stage.pair : Stage → FunctionEvent × Bool
  | .idle => (.noneSelected, false)
  | .triggerPending => (.softwareUpdate, true)
  | .cancelWindow => (.factoryReset, true)

/-- Though two constants share a value, the pairs are distinct. -/
theorem Stage.pair_injective : Function.Injective Stage.pair := by
  intro g g' h
  cases g <;> cases g' <;> first | rfl | exact absurd h (by decide)

namespace Hold

/-- The pair has a meaning, and an active timer is running or has an
expiry of its last start waiting. -/
structure Staged (h : Hold) : Prop where
  stage : ∃ g : Stage, g.pair = (h.mFunction, h.active)
  timed : h.active → h.timer.Armed ∨
    ∃ x, AppEvent.timer x ∈ h.pending ∧ x.start = h.timer.starts

variable {h h' : Hold} {a : Act} {event : AppEvent} {lost : Bool}

/-- A post leaves a staged hold staged. -/
theorem Staged.offer (hs : h.Staged) : (h.offer lost event).Staged := by
  cases lost with
  | true => exact ⟨hs.stage, hs.timed⟩
  | false =>
    refine ⟨hs.stage, fun hact => ?_⟩
    rcases hs.timed hact with harm | ⟨x, hx, hxs⟩
    · exact Or.inl harm
    · exact Or.inr ⟨x, List.mem_append_left _ hx, hxs⟩

/-- An expiry that is not lost takes the place of the running timer. -/
theorem Staged.expire (hs : h.Staged) :
    (Hold.offer false (.timer ⟨h.timer.starts, h.held⟩)
      { h with timer := h.timer.stop }).Staged := by
  refine ⟨hs.stage, fun _ => Or.inr ⟨⟨h.timer.starts, h.held⟩, ?_, rfl⟩⟩
  exact List.mem_append_right _ (List.mem_singleton_self _)

/-- An event that is not a timer's leaves the queue and the rest as it was. -/
theorem Staged.drop {rest : List AppEvent} (hs : h.Staged) (hp : h.pending = event :: rest)
    (he : ∀ x, event ≠ .timer x) : Staged { h with pending := rest } := by
  refine ⟨hs.stage, fun hact => ?_⟩
  rcases hs.timed hact with harm | ⟨x, hx, hxs⟩
  · exact Or.inl harm
  · rw [hp, List.mem_cons] at hx
    exact Or.inr ⟨x, hx.resolve_left (he x).symm, hxs⟩

/-- A push begins a hold with its timer running, or changes nothing. -/
theorem Staged.push (hs : h.Staged) : h.push.Staged := by
  unfold Hold.push
  split_ifs
  · exact ⟨⟨.triggerPending, rfl⟩, fun _ => Or.inl OneShot.armed_start⟩
  · exact hs

/-- A release leaves the machine idle, whatever it was. -/
theorem Staged.release (hs : h.Staged) : h.release.Staged := by
  unfold Hold.release
  split_ifs
  · exact ⟨⟨.idle, rfl⟩, fun hact => absurd hact Bool.false_ne_true⟩
  · exact hs

/-- A timeout outside the cancel window leaves a staged hold: it opens the
window with its timer running, or finds the machine idle. -/
theorem Staged.timeout {rest : List AppEvent} (hs : h.Staged)
    (hw : ¬ (h.active ∧ h.mFunction = .factoryReset)) :
    (Hold.timeout { h with pending := rest }).Staged := by
  unfold Hold.timeout
  dsimp only
  by_cases ht : h.active ∧ h.mFunction = .softwareUpdate
  · rw [if_pos ht]
    exact ⟨⟨.cancelWindow, rfl⟩, fun _ => Or.inl OneShot.armed_start⟩
  · rw [if_neg ht, if_neg hw]
    obtain ⟨g, hg⟩ := hs.stage
    -- neither stage of a hold is left, so no timer is active
    cases g with
    | idle =>
      obtain ⟨-, hact⟩ := Prod.mk.inj hg
      exact ⟨⟨.idle, hg⟩, fun h' => absurd (hact.trans h') Bool.false_ne_true⟩
    | triggerPending =>
      obtain ⟨hf, hact⟩ := Prod.mk.inj hg
      exact absurd ⟨hact.symm, hf.symm⟩ ht
    | cancelWindow =>
      obtain ⟨hf, hact⟩ := Prod.mk.inj hg
      exact absurd ⟨hact.symm, hf.symm⟩ hw

/-- The branch that schedules the reset is about to be taken. -/
def TimesOut (h : Hold) (a : Act) : Prop :=
  a = .dispatch ∧ (h.active ∧ h.mFunction = .factoryReset) ∧
    ∃ x rest, h.pending = .timer x :: rest

/-- **A step that loses nothing and schedules no reset keeps the stages.** -/
theorem Staged.step (hs : h.Staged) (hlost : a.lost = false) (hc : ¬ h.TimesOut a)
    (hstep : Hold.step h a = some h') : h'.Staged := by
  rcases step_cases hstep with ⟨-, rfl⟩ | ⟨pressed, l, -, rfl⟩ | ⟨l, rfl, -, rfl⟩ |
    ⟨_, l, -, -, rfl⟩ | ⟨event, rest, rfl, hp, rfl⟩
  · exact hs
  · exact Staged.offer ⟨hs.stage, hs.timed⟩
  · -- a lost expiry would leave an active hold with no timer
    obtain rfl : l = false := hlost
    exact hs.expire
  · exact hs.offer
  · cases event with
    | button pinNo action =>
      have hd : Staged { h with pending := rest } := hs.drop hp (by simp)
      simp only [handle]
      split_ifs
      · exact hd
      · exact hd.push
      · exact hd.release
    | timer x => exact hs.timeout fun hw => hc ⟨rfl, hw, x, rest, hp⟩
    | updateLedState => exact hs.drop hp (by simp)
    | other => exact hs.drop hp (by simp)

/-- A post schedules nothing. -/
theorem offer_resets : (h.offer lost event).resets = h.resets := by
  unfold Hold.offer
  split_ifs <;> rfl

/-- Only that branch counts a reset. -/
theorem resets_step (hstep : Hold.step h a = some h') : h'.resets = h.resets ∨ h.TimesOut a := by
  rcases step_cases hstep with ⟨-, rfl⟩ | ⟨_, _, -, rfl⟩ | ⟨_, -, -, rfl⟩ | ⟨_, _, -, -, rfl⟩ |
    ⟨event, rest, rfl, hp, rfl⟩
  · exact Or.inl rfl
  · exact Or.inl offer_resets
  · exact Or.inl offer_resets
  · exact Or.inl offer_resets
  · cases event with
    | button pinNo action =>
      left
      simp only [handle, Hold.push, Hold.release]
      split_ifs <;> rfl
    | timer x =>
      simp only [handle, Hold.timeout]
      split_ifs with h₁ h₂
      · exact Or.inl rfl
      · exact Or.inr ⟨rfl, h₂, x, rest, hp⟩
      · exact Or.inl rfl
    | updateLedState => exact Or.inl rfl
    | other => exact Or.inl rfl

end Hold

/-! ## The application -/

open AppTask Hold

variable {cfg : Config} {tr : List (Transition AppState Step)} {s s' : AppState} {a : Step}

/-- **The pair has exactly one meaning**, and an active timer is running or
has an expiry of its last start waiting to be dispatched. -/
structure HasStage (s : AppState) : Prop where
  stage : ∃! g : Stage, g.pair = (s.mFunction, s.mFunctionTimerActive)
  timed : s.mFunctionTimerActive → s.sFunctionTimer.Armed ∨
    ∃ x, AppEvent.timer x ∈ s.pending ∧ x.start = s.sFunctionTimer.starts

/-- The step ends a hold: a release is dispatched, or the reset scheduled. -/
def EndsHold (t : Transition AppState Step) : Prop :=
  t.src.mFunctionTimerActive ∧
    ((∃ action, action ≠ .buttonPushed ∧ t.src.Dispatches t.act (.button FUNCTION_BUTTON action)) ∨
      t.src.scheduledResets < t.dst.scheduledResets)

/-- **What a step owes the stages**: a hold that ends leaves the machine
idle, and an idle machine begins a hold at a push and at nothing else. -/
structure SoundStep (t : Transition AppState Step) : Prop where
  ends : EndsHold t → t.dst.Idle
  begins : t.src.Idle → t.src.Dispatches t.act (.button FUNCTION_BUTTON .buttonPushed) →
    Stage.triggerPending.pair = (t.dst.mFunction, t.dst.mFunctionTimerActive) ∧
      t.dst.sFunctionTimer.Armed
  lone : t.src.Idle → ∀ x, t.src.Dispatches t.act (.timer x) → t.dst.Idle

/-- The step dispatches a timer event in the cancel window. -/
def TimesOutInWindow (s : AppState) (a : Step) : Prop :=
  (∃ x, s.Dispatches a (.timer x)) ∧ s.mFunctionTimerActive ∧ s.mFunction = .factoryReset

instance : Decidable (TimesOutInWindow s a) :=
  decidable_of_iff ((a = .dispatch ∧ s.taken.any fun e => e matches .timer _) ∧
      s.mFunctionTimerActive ∧ s.mFunction = .factoryReset) <| by
    refine and_congr_left fun _ => ⟨?_, ?_⟩
    · rintro ⟨ha, ht⟩
      obtain ⟨e, he, hx⟩ := (Option.any_eq_true _ _).1 ht
      cases e with
      | timer x => exact ⟨x, ha, he⟩
      | _ => cases hx
    · rintro ⟨x, ha, ht⟩
      exact ⟨ha, by rw [ht]; rfl⟩

theorem hasStage_iff : HasStage s ↔ (ofApp s).Staged := by
  constructor
  · rintro ⟨⟨g, hg, -⟩, ht⟩
    exact ⟨⟨g, hg⟩, ht⟩
  · rintro ⟨⟨g, hg⟩, ht⟩
    exact ⟨⟨g, hg, fun g' hg' => Stage.pair_injective (hg'.trans hg.symm)⟩, ht⟩

/-- The branch a step of the application is about to take is the hold's. -/
theorem timesOut_iff (hstep : AppTask.step cfg s a = some s') :
    (ofApp s).TimesOut (actOf s a) ↔ TimesOutInWindow s a := by
  constructor
  · rintro ⟨ha, hw, x, rest, hp⟩
    exact ⟨⟨x, dispatches_of_head hstep ha hp⟩, hw⟩
  · rintro ⟨⟨x, ha, ht⟩, hw⟩
    obtain rfl : a = .dispatch := ha
    exact ⟨rfl, hw, x, s.sAppEventQueue.items, pending_of_taken ht⟩

/-- **A step that drops nothing and schedules no reset keeps the stages.** -/
theorem HasStage.step (hs : HasStage s) (hlost : (actOf s a).lost = false)
    (hc : ¬ TimesOutInWindow s a) (hstep : AppTask.step cfg s a = some s') : HasStage s' :=
  hasStage_iff.2 ((hasStage_iff.1 hs).step hlost (fun h => hc ((timesOut_iff hstep).1 h))
    (hold_step hstep))

/-- A hold that is released leaves the machine idle. -/
theorem idle_of_release {action : AppEventType} (hact : s.mFunctionTimerActive)
    (hne : action ≠ .buttonPushed)
    (hs' : ofApp s' = handle (.button FUNCTION_BUTTON action)
      { ofApp s with pending := s.sAppEventQueue.items }) : s'.Idle := by
  simp only [handle, ne_eq, not_true_eq_false, if_false, if_neg hne] at hs'
  rw [Hold.release, if_pos (by exact hact)] at hs'
  exact ⟨congrArg Hold.mFunction hs', congrArg Hold.active hs'⟩

/-- Only a timeout in the cancel window schedules a reset. -/
theorem timesOut_of_scheduled (hstep : AppTask.step cfg s a = some s')
    (hr : s.scheduledResets < s'.scheduledResets) : TimesOutInWindow s a := by
  rcases resets_step (hold_step hstep) with hsame | hout
  · exact absurd hr (by simp only [ofApp] at hsame; omega)
  · exact (timesOut_iff hstep).1 hout

/-- **A step outside the cancel window's timeout is sound.** -/
theorem soundStep_of_not_timesOut (hstep : AppTask.step cfg s a = some s')
    (hc : ¬ TimesOutInWindow s a) : SoundStep ⟨s, a, s'⟩ where
  ends := by
    rintro ⟨hact, ⟨action, hne, ha, ht⟩ | hr⟩
    · obtain rfl : a = .dispatch := ha
      exact idle_of_release hact hne (ofApp_dispatch hstep ht)
    · exact absurd (timesOut_of_scheduled hstep hr) hc
  begins := by
    rintro ⟨hf, hact⟩ ⟨ha, ht⟩
    obtain rfl : a = .dispatch := ha
    have hs' := ofApp_dispatch hstep ht
    simp only [handle, ne_eq, not_true_eq_false, if_false, if_true] at hs'
    have hna : ¬ s.mFunctionTimerActive = true := by simpa using hact
    rw [Hold.push, if_pos ⟨hna, hf⟩] at hs'
    refine ⟨Prod.ext (congrArg Hold.mFunction hs').symm (congrArg Hold.active hs').symm, ?_⟩
    have htimer : s'.sFunctionTimer = s.sFunctionTimer.start kFactoryResetTriggerTimeout :=
      congrArg Hold.timer hs'
    rw [htimer]
    exact OneShot.armed_start
  lone := by
    rintro ⟨hf, hact⟩ x ⟨ha, ht⟩
    obtain rfl : a = .dispatch := ha
    have hs' := ofApp_dispatch hstep ht
    have hna : ¬ s.mFunctionTimerActive = true := by simpa using hact
    rw [handle, Hold.timeout, if_neg fun h => hna h.1, if_neg fun h => hna h.1] at hs'
    exact ⟨(congrArg Hold.mFunction hs').trans hf, (congrArg Hold.active hs').trans hact⟩

/-- **The timeout of the cancel window is not**: it ends a hold and leaves
the timer flagged active. -/
theorem not_soundStep_of_timesOut (hstep : AppTask.step cfg s a = some s')
    (hc : TimesOutInWindow s a) : ¬ SoundStep ⟨s, a, s'⟩ := by
  obtain ⟨⟨x, ha, ht⟩, hact, hf⟩ := hc
  obtain rfl : a = .dispatch := ha
  have hs' := ofApp_dispatch hstep ht
  have hnt : ¬ ((ofApp s).active ∧ (ofApp s).mFunction = .softwareUpdate) := by
    rintro ⟨-, h⟩
    rw [show (ofApp s).mFunction = .factoryReset from hf] at h
    cases h
  rw [handle, Hold.timeout, if_neg hnt, if_pos ⟨hact, hf⟩] at hs'
  intro hsound
  -- the reset is counted, so a hold has ended, and the flag is as it was
  have hres : s'.scheduledResets = s.scheduledResets + 1 := congrArg Hold.resets hs'
  have hidle := hsound.ends ⟨hact, Or.inr (show s.scheduledResets < s'.scheduledResets by omega)⟩
  have hact' : s'.mFunctionTimerActive = s.mFunctionTimerActive := congrArg Hold.active hs'
  have h1 : s'.mFunctionTimerActive = false := hidle.2
  have h2 : s.mFunctionTimerActive = true := hact
  rw [hact', h2] at h1
  cases h1

/-- **The three stages.** A run that drops no event has a stage in every
state it passes through and is sound at every step exactly when it never
dispatches a timer event in the cancel window: the branch that schedules
the reset is the one that leaves the flag behind. -/
theorem stages_sound_iff (cfg : Config) {tr : List (Transition AppState Step)} {s : AppState}
    (r : (appTask cfg).Run tr s) (hdrop : s.dropped = 0) :
    ((∀ x ∈ (appTask cfg).visited tr, HasStage x) ∧ ∀ t ∈ tr, SoundStep t) ↔
      ∀ t ∈ tr, ¬ TimesOutInWindow t.src t.act := by
  have h0 : HasStage (appTask cfg).init := by
    rw [hasStage_iff, ofApp_init]
    exact ⟨⟨.idle, rfl⟩, fun h => absurd h Bool.false_ne_true⟩
  have hsplit : ((∀ x ∈ (appTask cfg).visited tr, HasStage x) ∧ ∀ t ∈ tr, SoundStep t) ↔
      ∀ t ∈ tr, HasStage t.dst ∧ SoundStep t := by
    rw [Machine.forall_mem_visited h0]
    exact ⟨fun h t ht => ⟨h.1 t ht, h.2 t ht⟩,
      fun h => ⟨fun t ht => (h t ht).1, fun t ht => (h t ht).2⟩⟩
  rw [hsplit]
  refine r.forall_iff (I := HasStage) (D := fun s a => (actOf s a).lost = false)
    (Q := fun s a s' => HasStage s' ∧ SoundStep ⟨s, a, s'⟩) (C := fun s a => ¬ TimesOutInWindow s a)
    h0 ?_ ?_ (not_lost r hdrop)
  · intro s a s' hs hlost hstep
    constructor
    · exact fun h hc => not_soundStep_of_timesOut hstep hc h.2
    · exact fun hc => ⟨hs.step hlost hc hstep, soundStep_of_not_timesOut hstep hc⟩
  · exact fun hs hlost hc hstep => hs.step hlost hc hstep

/-- **Without the condition it fails**: nobody touches the button after the
reset is scheduled, and the machine stands in a pending trigger with its
timer stopped and nothing waiting. -/
theorem stages_unsound_after_reset :
    ¬ ∀ (cfg : Config) (tr : List (Transition AppState Step)) (s : AppState),
      (appTask cfg).Run tr s → s.dropped = 0 →
        (∀ x ∈ (appTask cfg).visited tr, HasStage x) ∧ ∀ t ∈ tr, SoundStep t := by
  intro hall
  obtain ⟨tr, s, r, hdrop, hact, harm, hpend⟩ := (appTask ⟨.none, true⟩).exists_run_of_exec
    [.buttons 1 1, .get, .dispatch, .functionTimer, .get, .dispatch, .functionTimer, .get,
      .dispatch]
    (fun _ s => s.dropped = 0 ∧ s.mFunctionTimerActive ∧ ¬ s.sFunctionTimer.Armed ∧
      s.pending = []) (by decide +kernel)
  rcases ((hall _ tr s r hdrop).1 s r.mem_visited).timed hact with h | ⟨x, hx, -⟩
  · exact harm h
  · rw [hpend] at hx
    cases hx

/-- The condition is met by a hold that is given up in the cancel window. -/
theorem stages_sound_of_released : ∃ tr s, (appTask ⟨.two, true⟩).Run tr s ∧ tr.length = 9 ∧
    (∀ x ∈ (appTask ⟨.two, true⟩).visited tr, HasStage x) ∧ ∀ t ∈ tr, SoundStep t := by
  obtain ⟨tr, s, r, hdrop, hlen, hc⟩ := (appTask ⟨.two, true⟩).exists_run_of_exec
    [.buttons 1 1, .get, .dispatch, .functionTimer, .get, .dispatch, .buttons 0 1, .get, .dispatch]
    (fun tr s => s.dropped = 0 ∧ tr.length = 9 ∧ ∀ t ∈ tr, ¬ TimesOutInWindow t.src t.act)
    (by decide +kernel)
  exact ⟨tr, s, r, hlen, (stages_sound_iff _ r hdrop).2 hc⟩

end SoilSensor
