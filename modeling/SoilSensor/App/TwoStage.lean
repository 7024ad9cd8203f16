import SoilSensor.App.Stages
/-!
# The two stages before a reset

A reset is scheduled by the second of two timer events, and the first is
answered to by a timer the push started. Timer events carry no
generation, and cancelling a timer leaves an expiry that is already
queued: one that outlives its hold is taken for the next hold's if no
release stands before it. `owed_of_no_stale_push` says that this is
the only way in: in a run in which no push begins a hold ahead of such an
event, every timer event that advances a hold is the hold's own.

The journal of a run is what its dispatches did, in order. The starts of
the timer are counted, so "the timer that this push started" is a number.
-/

namespace SoilSensor

/-- **What one dispatch did**: the event, whether it found the machine
idle, and the number of the timer start it made, if it made one. -/
structure Dispatched where
  event : AppEvent
  idle : Bool
  started : Option ℕ
  deriving DecidableEq

namespace Dispatched

/-- A release of the function button. -/
def Release (d : Dispatched) : Prop :=
  ∃ action, action ≠ .buttonPushed ∧ d.event = .button FUNCTION_BUTTON action

/-- A push that moved the machine out of idle and made start `n`. -/
def Begins (d : Dispatched) (n : ℕ) : Prop :=
  d.event = .button FUNCTION_BUTTON .buttonPushed ∧ d.idle ∧ d.started = some n

/-- **The first stage**: a push began a hold with start `n`, and nothing
was released since. -/
def FirstStage (j : List Dispatched) (n : ℕ) : Prop :=
  ∃ l p m, j = l ++ p :: m ∧ p.Begins n ∧ ∀ d ∈ m, ¬ d.Release

/-- **The second stage**: in the first, an expiry of the push's timer was
dispatched, its handler made start `n`, and nothing was released since. -/
def SecondStage (j : List Dispatched) (n : ℕ) : Prop :=
  ∃ l d m x, j = l ++ d :: m ∧ FirstStage l x.start ∧ d.event = .timer x ∧
    d.started = some n ∧ ∀ d ∈ m, ¬ d.Release

variable {j : List Dispatched} {d : Dispatched} {n : ℕ}

theorem FirstStage.snoc (h : FirstStage j n) (hd : ¬ d.Release) : FirstStage (j ++ [d]) n := by
  obtain ⟨l, p, m, rfl, hp, hm⟩ := h
  refine ⟨l, p, m ++ [d], by simp, hp, fun e he => ?_⟩
  rcases List.mem_append.1 he with he | he
  · exact hm e he
  · rw [List.mem_singleton.1 he]; exact hd

theorem SecondStage.snoc (h : SecondStage j n) (hd : ¬ d.Release) : SecondStage (j ++ [d]) n := by
  obtain ⟨l, t, m, x, rfl, hl, ht, hn, hm⟩ := h
  refine ⟨l, t, m ++ [d], x, by simp, hl, ht, hn, fun e he => ?_⟩
  rcases List.mem_append.1 he with he | he
  · exact hm e he
  · rw [List.mem_singleton.1 he]; exact hd

end Dispatched

open Dispatched

/-! ## The timer events a hold will meet -/

/-- An event that ends a hold when it is dispatched. -/
def AppEvent.isRelease : AppEvent → Bool
  | .button pinNo action => pinNo = FUNCTION_BUTTON ∧ action ≠ .buttonPushed
  | _ => false

/-- The starts answered by the timer events ahead of the first release. -/
def live : List AppEvent → List ℕ
  | [] => []
  | e :: rest =>
    if e.isRelease then []
    else
      match e with
      | .timer x => x.start :: live rest
      | _ => live rest

theorem live_append_of_not_timer {q : List AppEvent} {e : AppEvent} (he : ∀ x, e ≠ .timer x) :
    live (q ++ [e]) = live q := by
  induction q with
  | nil =>
    cases e with
    | timer x => exact absurd rfl (he x)
    | _ => simp [live]
  | cons b rest ih => simp only [List.cons_append, live, ih]

/-- A timer event at the back is met unless a release is. -/
theorem live_append_timer {q : List AppEvent} {x : Expiry} :
    live (q ++ [.timer x]) = live q ∨ live (q ++ [.timer x]) = live q ++ [x.start] := by
  induction q with
  | nil => right; simp [live, AppEvent.isRelease]
  | cons b rest ih =>
    simp only [List.cons_append, live]
    by_cases hb : b.isRelease
    · left; rw [if_pos hb, if_pos hb]
    · rw [if_neg hb, if_neg hb]
      rcases ih with ih | ih <;> rw [ih] <;> cases b <;> simp

theorem live_cons_of_not_timer {rest : List AppEvent} {e : AppEvent} (hr : ¬ e.isRelease)
    (he : ∀ x, e ≠ .timer x) : live (e :: rest) = live rest := by
  cases e with
  | timer x => exact absurd rfl (he x)
  | _ => simp [live, hr]

theorem live_timer {rest : List AppEvent} {x : Expiry} :
    live (.timer x :: rest) = x.start :: live rest := rfl

namespace Hold

/-- What a dispatch of the hold did. -/
def record (event : AppEvent) (h h' : Hold) : Dispatched where
  event := event
  idle := decide h.Idle
  started := if h'.timer.starts = h.timer.starts then none else some h'.timer.starts

/-- **The invariant**: the hold is where the journal says, and the timer
events it will meet are at most the one its timer left. -/
structure Timely (h : Hold) (j : List Dispatched) : Prop where
  armed : h.timer.Armed → h.active
  unmet : h.active → h.timer.Armed → live h.pending = []
  own : h.active → live h.pending = [] ∨ live h.pending = [h.timer.starts]
  trigger : h.active → h.mFunction = .softwareUpdate →
    h.timer.Armed ∨ live h.pending ≠ [] → FirstStage j h.timer.starts
  window : h.active → h.mFunction = .factoryReset → SecondStage j h.timer.starts

variable {h h' : Hold} {j : List Dispatched} {a : Act} {event : AppEvent} {rest : List AppEvent}

/-! ### What the invariant says of a timer event -/

/-- **A timer event an active hold meets is its own timer's**, which has
stopped, and is the only one. -/
theorem Timely.meets {x : Expiry} (ht : h.Timely j) (hp : h.pending = .timer x :: rest)
    (hact : h.active) : x.start = h.timer.starts ∧ live rest = [] ∧ ¬ h.timer.Armed := by
  have hlive : live h.pending = x.start :: live rest := by rw [hp]; rfl
  have hoff : ¬ h.timer.Armed := by
    intro harm
    have hnil := ht.unmet hact harm
    rw [hlive] at hnil
    cases hnil
  rcases ht.own hact with hl | hl
  · rw [hlive] at hl
    cases hl
  · rw [hlive] at hl
    obtain ⟨hx, hrest⟩ := List.cons.inj hl
    exact ⟨hx, hrest, hoff⟩

/-- So one that opens the window is the first stage's. -/
theorem Timely.first {x : Expiry} (ht : h.Timely j) (hp : h.pending = .timer x :: rest)
    (hact : h.active) (hf : h.mFunction = .softwareUpdate) : FirstStage j x.start := by
  rw [(ht.meets hp hact).1]
  exact ht.trigger hact hf (Or.inr (by rw [hp, live_timer]; simp))

/-- And one that schedules the reset is the second's. -/
theorem Timely.second {x : Expiry} (ht : h.Timely j) (hp : h.pending = .timer x :: rest)
    (hact : h.active) (hf : h.mFunction = .factoryReset) : SecondStage j x.start := by
  rw [(ht.meets hp hact).1]
  exact ht.window hact hf

/-! ### The steps keep it -/

/-- A post of anything but a timer event leaves what is met. -/
theorem Timely.offer {lost : Bool} (ht : h.Timely j) (he : ∀ x, event ≠ .timer x) :
    (h.offer lost event).Timely j := by
  cases lost with
  | true => exact ⟨ht.armed, ht.unmet, ht.own, ht.trigger, ht.window⟩
  | false =>
    have hl : live (h.pending ++ [event]) = live h.pending := live_append_of_not_timer he
    refine ⟨ht.armed, ?_, ?_, ?_, ht.window⟩
    · intro hact harm
      exact hl.trans (ht.unmet hact harm)
    · intro hact
      change live (h.pending ++ [event]) = [] ∨ live (h.pending ++ [event]) = [h.timer.starts]
      rw [hl]
      exact ht.own hact
    · intro hact hf hor
      change h.timer.Armed ∨ live (h.pending ++ [event]) ≠ [] at hor
      rw [hl] at hor
      exact ht.trigger hact hf hor

/-- An expiry, lost or not, is the timer's own. -/
theorem Timely.expire {lost : Bool} (ht : h.Timely j) (harm : h.timer.Armed) :
    (Hold.offer lost (.timer ⟨h.timer.starts, h.held⟩) { h with timer := h.timer.stop }).Timely j := by
  have hact := ht.armed harm
  have hnil := ht.unmet hact harm
  cases lost with
  | true =>
    refine ⟨?_, ?_, fun _ => Or.inl hnil, ?_, ht.window⟩
    · exact fun hs => absurd hs OneShot.not_armed_stop
    · exact fun _ hs => absurd hs OneShot.not_armed_stop
    · exact fun _ hf _ => ht.trigger hact hf (Or.inl harm)
  | false =>
    refine ⟨?_, ?_, fun _ => ?_, ?_, ht.window⟩
    · exact fun hs => absurd hs OneShot.not_armed_stop
    · exact fun _ hs => absurd hs OneShot.not_armed_stop
    · -- a release may stand before it, and then it is not met
      change live (h.pending ++ [_]) = [] ∨ live (h.pending ++ [_]) = [h.timer.starts]
      rcases live_append_timer (q := h.pending) (x := ⟨h.timer.starts, h.held⟩) with hl | hl
      · left; rw [hl, hnil]
      · right; rw [hl, hnil]; rfl
    · exact fun _ hf _ => ht.trigger hact hf (Or.inl harm)

theorem not_release_record (he : ¬ event.isRelease) : ¬ (record event h h').Release := by
  rintro ⟨action, hne, hev⟩
  obtain rfl : event = .button FUNCTION_BUTTON action := hev
  exact he (by simpa [AppEvent.isRelease] using hne)

/-- An event the hold does not answer to. -/
theorem Timely.pass (ht : h.Timely j) (hp : h.pending = event :: rest)
    (hpass : ¬ h.active ∨ ¬ event.isRelease ∧ ∀ x, event ≠ .timer x) :
    Timely { h with pending := rest } (j ++ [record event h { h with pending := rest }]) := by
  rcases hpass with hina | ⟨hrel, htim⟩
  · exact ⟨ht.armed, fun ha => absurd ha hina, fun ha => absurd ha hina, fun ha => absurd ha hina,
      fun ha => absurd ha hina⟩
  · have hl : live rest = live h.pending := by rw [hp, live_cons_of_not_timer hrel htim]
    have hrec : ¬ (record event h { h with pending := rest }).Release := not_release_record hrel
    refine ⟨ht.armed, fun ha hr => hl.trans (ht.unmet ha hr), fun ha => ?_, fun ha hf hor => ?_,
      fun ha hf => (ht.window ha hf).snoc hrec⟩
    · change live rest = [] ∨ live rest = [h.timer.starts]
      rw [hl]
      exact ht.own ha
    · change h.timer.Armed ∨ live rest ≠ [] at hor
      rw [hl] at hor
      exact (ht.trigger ha hf hor).snoc hrec

/-- **A push that begins a hold**, with no timer event ahead of the next
release. -/
theorem Timely.push (ht : h.Timely j) (hp : h.pending = edgeEvent true :: rest)
    (hstale : h.Idle → live rest = []) :
    (Hold.push { h with pending := rest }).Timely
      (j ++ [record (edgeEvent true) h (Hold.push { h with pending := rest })]) := by
  by_cases hidle : ¬ h.active ∧ h.mFunction = .noneSelected
  · have hi : h.Idle := ⟨hidle.2, by simpa using hidle.1⟩
    rw [Hold.push, if_pos (by exact hidle)]
    have hnil : live rest = [] := hstale hi
    refine ⟨fun _ => rfl, fun _ _ => hnil, fun _ => Or.inl hnil, fun _ _ _ => ?_,
      fun _ hf => FunctionEvent.noConfusion hf⟩
    -- the hold's first stage is the record of this very push
    refine ⟨j, _, [], rfl, ⟨rfl, ?_, ?_⟩, by simp⟩
    · exact decide_eq_true hi
    · exact if_neg (Nat.succ_ne_self _)
  · rw [Hold.push, if_neg (by exact hidle)]
    exact ht.pass hp (Or.inr ⟨by decide, by simp [edgeEvent]⟩)

/-- **A release** ends the hold, so that nothing is asked of what is
pending. -/
theorem Timely.release {action : AppEventType} (ht : h.Timely j)
    (hp : h.pending = .button FUNCTION_BUTTON action :: rest) :
    (Hold.release { h with pending := rest }).Timely
      (j ++ [record (.button FUNCTION_BUTTON action) h (Hold.release { h with pending := rest })]) := by
  by_cases hact : h.active
  · rw [Hold.release, if_pos (by exact hact)]
    exact ⟨fun hs => absurd hs OneShot.not_armed_stop, fun ha => absurd ha Bool.false_ne_true,
      fun ha => absurd ha Bool.false_ne_true, fun ha => absurd ha Bool.false_ne_true,
      fun ha => absurd ha Bool.false_ne_true⟩
  · rw [Hold.release, if_neg (by exact hact)]
    exact ht.pass hp (Or.inl hact)

/-- **A timeout** of an active hold takes it from the first stage to the
second, or from the second to the reset. -/
theorem Timely.timeout {x : Expiry} (ht : h.Timely j) (hp : h.pending = .timer x :: rest) :
    (Hold.timeout { h with pending := rest }).Timely
      (j ++ [record (.timer x) h (Hold.timeout { h with pending := rest })]) := by
  by_cases hact : h.active
  · obtain ⟨-, hnil, hoff⟩ := ht.meets hp hact
    by_cases htrig : h.mFunction = .softwareUpdate
    · have hfirst := ht.first hp hact htrig
      rw [Hold.timeout, if_pos (by exact ⟨hact, htrig⟩)]
      refine ⟨fun _ => rfl, fun _ _ => hnil, fun _ => Or.inl hnil,
        fun _ hf => FunctionEvent.noConfusion hf, fun _ _ => ?_⟩
      exact ⟨j, _, [], x, rfl, hfirst, rfl, if_neg (Nat.succ_ne_self _), by simp⟩
    · have hnt : ¬ (h.active ∧ h.mFunction = .softwareUpdate) := fun hc => htrig hc.2
      by_cases hwin : h.mFunction = .factoryReset
      · rw [Hold.timeout, if_neg (by exact hnt), if_pos (by exact ⟨hact, hwin⟩)]
        -- `mFunction` is back at `NoneSelected` with the flag set, but no expiry is left to come
        refine ⟨fun harm => absurd harm hoff, fun _ harm => absurd harm hoff,
          fun _ => Or.inl hnil, fun _ _ hor => ?_, fun _ hf => FunctionEvent.noConfusion hf⟩
        exact absurd hnil (hor.resolve_left hoff)
      · have hnw : ¬ (h.active ∧ h.mFunction = .factoryReset) := fun hc => hwin hc.2
        rw [Hold.timeout, if_neg (by exact hnt), if_neg (by exact hnw)]
        exact ⟨fun harm => absurd harm hoff, fun _ harm => absurd harm hoff, fun _ => Or.inl hnil,
          fun _ hf => absurd hf htrig, fun _ hf => absurd hf hwin⟩
  · have hnt : ¬ (h.active ∧ h.mFunction = .softwareUpdate) := fun hc => hact hc.1
    have hnw : ¬ (h.active ∧ h.mFunction = .factoryReset) := fun hc => hact hc.1
    rw [Hold.timeout, if_neg (by exact hnt), if_neg (by exact hnw)]
    exact ht.pass hp (Or.inl hact)

/-- **A dispatch keeps the invariant**, its record added to the journal,
unless it is of a push that begins a hold ahead of a timer event. -/
theorem Timely.handle (ht : h.Timely j) (hp : h.pending = event :: rest)
    (hc : event = edgeEvent true → h.Idle → live rest = []) :
    (Hold.handle event { h with pending := rest }).Timely
      (j ++ [record event h (Hold.handle event { h with pending := rest })]) := by
  cases event with
  | button pinNo action =>
    by_cases hpin : pinNo = FUNCTION_BUTTON
    · subst hpin
      by_cases hpush : action = .buttonPushed
      · subst hpush
        exact ht.push hp (hc rfl)
      · have heq : Hold.handle (.button FUNCTION_BUTTON action) { h with pending := rest } =
            Hold.release { h with pending := rest } := by
          simp only [Hold.handle, ne_eq, not_true_eq_false, if_false, if_neg hpush]
        rw [heq]
        exact ht.release hp
    · have heq : Hold.handle (.button pinNo action) { h with pending := rest } =
          { h with pending := rest } := by
        simp only [Hold.handle, ne_eq, hpin, not_false_eq_true, if_true]
      rw [heq]
      exact ht.pass hp (Or.inr ⟨by simp [AppEvent.isRelease, hpin], by simp⟩)
  | timer x => exact ht.timeout hp
  | updateLedState => exact ht.pass hp (Or.inr ⟨by simp [AppEvent.isRelease], by simp⟩)
  | other => exact ht.pass hp (Or.inr ⟨by simp [AppEvent.isRelease], by simp⟩)

/-- And any other step keeps it, the journal as it was. -/
theorem Timely.step (ht : h.Timely j) (ha : a ≠ .dispatch) (hstep : Hold.step h a = some h') :
    h'.Timely j := by
  rcases step_cases hstep with ⟨-, rfl⟩ | ⟨pressed, lost, -, rfl⟩ | ⟨lost, -, harm, rfl⟩ |
    ⟨e, lost, -, hf, rfl⟩ | ⟨_, _, had, -, -⟩
  · exact ht
  · refine Timely.offer ⟨ht.armed, ht.unmet, ht.own, ht.trigger, ht.window⟩ ?_
    simp [edgeEvent]
  · exact ht.expire harm
  · refine ht.offer fun x hx => ?_
    rw [hx] at hf
    exact Bool.false_ne_true hf
  · exact absurd had ha

end Hold

/-! ## The application -/

open AppTask Hold

variable {cfg : Config} {tr : List (Transition AppState Step)} {s s' : AppState} {a : Step}

/-- What a step wrote into the journal: its record, if it dispatched. -/
def dispatched (t : Transition AppState Step) : Option Dispatched :=
  match t.act, t.src.taken with
  | .dispatch, some event => some (record event (ofApp t.src) (ofApp t.dst))
  | _, _ => none

/-- **The journal of a run.** -/
def journal (tr : List (Transition AppState Step)) : List Dispatched := tr.filterMap dispatched

/-- **What a step owes the dispatches before it**: a timer event that
takes a hold to the cancel window answers the timer of that hold's push,
and a reset is scheduled by a timer event that answers the timer of the
hold's second stage. -/
structure Owed (j : List Dispatched) (t : Transition AppState Step) : Prop where
  advance : ∀ x, t.src.Dispatches t.act (.timer x) →
    t.src.sFunctionTimer.starts < t.dst.sFunctionTimer.starts → FirstStage j x.start
  reset : t.src.scheduledResets < t.dst.scheduledResets →
    ∃ x, t.src.Dispatches t.act (.timer x) ∧ SecondStage j x.start

/-- The step dispatches a push that begins a hold, while a timer event
waits ahead of the next release. -/
def StalePush (s : AppState) (a : Step) : Prop :=
  s.Dispatches a (.button FUNCTION_BUTTON .buttonPushed) ∧ s.Idle ∧
    live s.sAppEventQueue.items ≠ []

instance : Decidable (StalePush s a) := inferInstanceAs (Decidable (_ ∧ _))

/-- **The invariant of a run**: no step of it is a stale push, so its hold
is where its journal says. -/
theorem timely_of_run (r : (appTask cfg).Run tr s) (hc : ∀ t ∈ tr, ¬ StalePush t.src t.act) :
    (ofApp s).Timely (journal tr) := by
  induction r with
  | init =>
    rw [ofApp_init]
    exact ⟨nofun, nofun, nofun, nofun, nofun⟩
  | @snoc tr s s' a r hstep ih =>
    have ht := ih fun t ht => hc t (List.mem_append_left _ ht)
    rw [journal, List.filterMap_append]
    by_cases ha : a = .dispatch
    · subst ha
      obtain ⟨event, htaken, -⟩ := of_step_dispatch hstep
      have hpush : ¬ StalePush s .dispatch := hc ⟨s, .dispatch, s'⟩ (by simp)
      simp only [List.filterMap_cons, dispatched, htaken, List.filterMap_nil]
      rw [ofApp_dispatch hstep htaken]
      refine ht.handle (pending_of_taken htaken) fun he hidle => ?_
      by_contra hl
      exact hpush ⟨⟨rfl, by rw [htaken, he]; rfl⟩, hidle, hl⟩
    · have hnone : dispatched ⟨s, a, s'⟩ = none := by
        unfold dispatched
        split
        · exact absurd ‹_› ha
        · rfl
      simp only [List.filterMap_cons, hnone, List.filterMap_nil, List.append_nil]
      exact ht.step (actOf_ne_dispatch ha) (hold_step hstep)

/-- A timer event starts the timer in one stage only. -/
theorem trigger_of_started {x : Expiry} (hstep : AppTask.step cfg s a = some s')
    (hd : s.Dispatches a (.timer x)) (hlt : s.sFunctionTimer.starts < s'.sFunctionTimer.starts) :
    (ofApp s).active ∧ (ofApp s).mFunction = .softwareUpdate := by
  obtain ⟨rfl, htaken⟩ := hd
  by_contra hnt
  have hs' : s'.sFunctionTimer = (Hold.timeout _).timer :=
    congrArg Hold.timer (ofApp_dispatch hstep htaken)
  have hsame : s'.sFunctionTimer.starts = s.sFunctionTimer.starts := by
    rw [hs', Hold.timeout, if_neg (by exact hnt)]
    split_ifs <;> rfl
  omega

/-- **The two stages.** In a run in which no push begins a hold ahead of a
timer event, every step pays what it owes the dispatches before it. -/
theorem owed_of_no_stale_push (cfg : Config) {tr : List (Transition AppState Step)} {s : AppState}
    (r : (appTask cfg).Run tr s) (hc : ∀ t ∈ tr, ¬ StalePush t.src t.act) :
    ∀ tr₁ t tr₂, tr = tr₁ ++ t :: tr₂ → Owed (journal tr₁) t := by
  intro tr₁ t tr₂ htr
  obtain ⟨r₁, hstep⟩ := r.split htr
  have ht : (ofApp t.src).Timely (journal tr₁) := timely_of_run r₁ fun u hu =>
    hc u (by rw [htr]; exact List.mem_append_left _ hu)
  constructor
  · intro x hd hlt
    obtain ⟨hact, hf⟩ := trigger_of_started hstep hd hlt
    exact ht.first (pending_of_taken hd.2) hact hf
  · intro hlt
    obtain ⟨⟨x, hd⟩, hact, hf⟩ := timesOut_of_scheduled hstep hlt
    exact ⟨x, hd, ht.second (pending_of_taken hd.2) hact hf⟩

/-- **Without the condition it fails**, and nothing need be dropped: a
release and a second push as the timer of a hold expires. The release
stops a timer that has stopped, its expiry opens the window of the second
hold, and that hold is reset one timeout later. -/
theorem not_owed_of_stale_push :
    ¬ ∀ (cfg : Config) (tr : List (Transition AppState Step)) (s : AppState),
      (appTask cfg).Run tr s → s.dropped = 0 →
        ∀ tr₁ t tr₂, tr = tr₁ ++ t :: tr₂ → Owed (journal tr₁) t := by
  intro hall
  obtain ⟨tr, s, r, hdrop, hres, hj⟩ := (appTask ⟨.two, true⟩).exists_run_of_exec
    [.buttons 1 1, .get, .dispatch, .buttons 0 1, .buttons 1 1, .functionTimer, .get, .dispatch,
      .get, .dispatch, .get, .dispatch, .functionTimer, .get, .dispatch]
    (fun tr s => s.dropped = 0 ∧
      (tr.getLast?.any fun t => t.src.scheduledResets < t.dst.scheduledResets) ∧
      journal tr.dropLast = [⟨edgeEvent true, true, some 1⟩, ⟨edgeEvent false, false, none⟩,
        ⟨edgeEvent true, true, some 2⟩, ⟨.timer ⟨1, true⟩, false, some 3⟩])
    (by decide +kernel)
  obtain ⟨t, hlast, hlt⟩ := (Option.any_eq_true _ _).1 hres
  have htr : tr = tr.dropLast ++ t :: [] := (List.dropLast_append_getLast? t hlast).symm
  have howed := (hall _ tr s r hdrop _ t [] htr).reset (of_decide_eq_true hlt)
  rw [hj] at howed
  obtain ⟨x, -, l, d, m, y, hjl, hfirst, hd, -⟩ := howed
  -- the only timer event is the last entry, and the start it answers is the first hold's
  obtain ⟨hl, hy⟩ : l = [⟨edgeEvent true, true, some 1⟩, ⟨edgeEvent false, false, none⟩,
      ⟨edgeEvent true, true, some 2⟩] ∧ y.start = 1 := by
    rcases l with _ | ⟨_, _ | ⟨_, _ | ⟨_, _ | ⟨_, l⟩⟩⟩⟩
    · cases hjl; cases hd
    · cases hjl; cases hd
    · cases hjl; cases hd
    · cases hjl; cases hd
      exact ⟨rfl, rfl⟩
    · simp at hjl
  rw [hl, hy] at hfirst
  -- and a release stands behind its push
  obtain ⟨l', p, m', hp, ⟨-, -, hps⟩, hm⟩ := hfirst
  rcases l' with _ | ⟨_, _ | ⟨_, _ | ⟨_, l'⟩⟩⟩
  · cases hp
    exact hm _ (List.mem_cons_self ..) ⟨.buttonReleased, by decide, rfl⟩
  · cases hp; cases hps
  · cases hp; cases hps
  · simp at hp

/-- The condition is met by a hold that is held to the end. -/
theorem owed_of_held : ∃ tr s, (appTask ⟨.two, true⟩).Run tr s ∧ s.scheduledResets = 1 ∧
    ∀ tr₁ t tr₂, tr = tr₁ ++ t :: tr₂ → Owed (journal tr₁) t := by
  obtain ⟨tr, s, r, hres, hc⟩ := (appTask ⟨.two, true⟩).exists_run_of_exec
    [.buttons 1 1, .get, .dispatch, .functionTimer, .get, .dispatch, .functionTimer, .get,
      .dispatch]
    (fun tr s => s.scheduledResets = 1 ∧ ∀ t ∈ tr, ¬ StalePush t.src t.act)
    (by decide +kernel)
  exact ⟨tr, s, r, hres, owed_of_no_stale_push _ r hc⟩

end SoilSensor
