import SoilSensor.Led.Phase
/-!
# A widget and the updates that wait for it

A blink is a chain: the timer expires and leaves an update waiting, the
update is dispatched, toggles the widget and starts the timer again. A
`Lamp` is a widget with the updates that wait for it, each with the start of
the timer it answers. While nothing starts the timer over an update that
waits, there is one link at a time (`single_iff`), and an update that
toggles answers the last start, after its full time (`answers_of_run`).
-/

namespace SoilSensor

/-- Operations on one widget, in turn. -/
def LedOp.runAll (ops : List LedOp) (w : LEDWidget) : LEDWidget :=
  ops.foldl (fun w op => op.run w) w

/-- **An operation that starts the timer**: `Blink` with two times. -/
def LedOp.Starts : LedOp → Prop
  | .blink onTimeMS offTimeMS => onTimeMS ≠ 0 ∧ offTimeMS ≠ 0
  | _ => False

instance (op : LedOp) : Decidable op.Starts := by
  cases op <;> unfold LedOp.Starts <;> infer_instance

/-- **A widget and the updates that wait for it**, the oldest first. -/
structure Lamp where
  widget : LEDWidget
  pending : List ℕ

/-- What happens to a lamp: operations, an expiry, whose post may be lost,
or the dispatch of the oldest update. -/
inductive LampAct
  | operate (ops : List LedOp)
  | expire (lost : Bool)
  | dispatch
  deriving DecidableEq

/-- **A lamp**, from a widget without updates on. -/
def lamp (w : LEDWidget) : Machine Lamp LampAct where
  init := ⟨w, []⟩
  step
    | l, .operate ops => some { l with widget := LedOp.runAll ops l.widget }
    | l, .expire lost =>
      if l.widget.mLedTimer.Armed then
        some ⟨l.widget.expire,
          if lost then l.pending else l.pending ++ [l.widget.mLedTimer.starts]⟩
      else none
    | l, .dispatch =>
      match l.pending with
      | [] => none
      | _ :: rest => some ⟨l.widget.updateState, rest⟩

/-- The time of the widget's phase. -/
def LEDWidget.phaseTime (w : LEDWidget) : UInt32 :=
  if w.mState then w.mBlinkOnTimeMS else w.mBlinkOffTimeMS

/-- Operations leave a widget in its phase. -/
theorem LEDWidget.Phased.runAll {w : LEDWidget} {ops : List LedOp} (h : w.Phased) :
    (LedOp.runAll ops w).Phased := by
  induction ops generalizing w with
  | nil => exact h
  | cons op ops ih => exact ih (h.run op)

namespace Lamp

variable {w v : LEDWidget} {l l' : Lamp} {a : LampAct} {op : LedOp} {ops : List LedOp}
variable {tr : List (Transition Lamp LampAct)}

/-- The updates that wait, and one more if the timer runs. -/
def load (l : Lamp) : ℕ := l.pending.length + if l.widget.mLedTimer.Armed then 1 else 0

/-- **The step starts the timer over an update that waits.** -/
def Overtakes (l : Lamp) : LampAct → Prop
  | .operate ops => l.pending ≠ [] ∧ ∃ op ∈ ops.getLast?, op.Starts
  | _ => False

/-- The step updates by a dispatch only. -/
def Admitted : LampAct → Prop
  | .operate ops => .updateState ∉ ops
  | _ => True

/-! ## One step -/

theorem runAll_snoc : LedOp.runAll (ops ++ [op]) v = op.run (LedOp.runAll ops v) := by
  rw [LedOp.runAll, LedOp.runAll, List.foldl_append]
  rfl

theorem armed_of_starts (h : op.Starts) : (op.run v).mLedTimer.Armed := by
  cases op with
  | blink onTimeMS offTimeMS =>
    refine LEDWidget.armed_blink.2 ?_
    rw [LEDWidget.Blinking, LEDWidget.blink_onTime, LEDWidget.blink_offTime]
    exact h
  | _ => exact h.elim

/-- **An operation that does not start the timer ends the blink.** -/
theorem ended_of_not_starts (hop : op ≠ .updateState) (h : ¬ op.Starts) :
    ¬ (op.run v).Blinking ∧ ¬ (op.run v).mLedTimer.Armed := by
  cases op with
  | init => exact ⟨LEDWidget.not_blinking_set, OneShot.not_armed_stop⟩
  | set => exact ⟨LEDWidget.not_blinking_set, OneShot.not_armed_stop⟩
  | invert => exact ⟨LEDWidget.not_blinking_set, OneShot.not_armed_stop⟩
  | blink onTimeMS offTimeMS =>
    have hb : ¬ (v.blink onTimeMS offTimeMS).Blinking := by
      rw [LEDWidget.Blinking, LEDWidget.blink_onTime, LEDWidget.blink_offTime]
      exact h
    exact ⟨hb, fun harm => hb (LEDWidget.armed_blink.1 harm)⟩
  | updateState => exact absurd rfl hop

/-- **The steps**, with what each asks and what it leaves. -/
theorem step_cases (h : (lamp w).step l a = some l') :
    (∃ ops, a = .operate ops ∧ l' = ⟨LedOp.runAll ops l.widget, l.pending⟩) ∨
    (∃ lost, a = .expire lost ∧ l.widget.mLedTimer.Armed ∧ l' = ⟨l.widget.expire,
      if lost then l.pending else l.pending ++ [l.widget.mLedTimer.starts]⟩) ∨
    ∃ n rest, a = .dispatch ∧ l.pending = n :: rest ∧ l' = ⟨l.widget.updateState, rest⟩ := by
  cases a with
  | operate ops => exact Or.inl ⟨ops, rfl, (Option.some.inj h).symm⟩
  | expire lost =>
    simp only [lamp] at h
    by_cases harm : l.widget.mLedTimer.Armed
    · rw [if_pos harm] at h
      exact Or.inr (Or.inl ⟨lost, rfl, harm, (Option.some.inj h).symm⟩)
    · rw [if_neg harm] at h
      cases h
  | dispatch =>
    simp only [lamp] at h
    split at h
    · cases h
    · rename_i n rest hp
      exact Or.inr (Or.inr ⟨n, rest, rfl, hp, (Option.some.inj h).symm⟩)

/-- What operations leave: the widget as it was, a timer that runs, or a
blink that is over. -/
theorem runAll_cases (h : .updateState ∉ ops) :
    ops = [] ∨ (∃ op ∈ ops.getLast?, op.Starts) ∧ (LedOp.runAll ops v).mLedTimer.Armed ∨
      (¬ ∃ op ∈ ops.getLast?, op.Starts) ∧ ¬ (LedOp.runAll ops v).Blinking ∧
        ¬ (LedOp.runAll ops v).mLedTimer.Armed := by
  rcases List.eq_nil_or_concat ops with rfl | ⟨front, op, rfl⟩
  · exact Or.inl rfl
  · right
    rw [List.concat_eq_append] at h ⊢
    have hop : op ≠ .updateState := fun heq => h (heq ▸ List.mem_append_right _ List.mem_cons_self)
    have hlast : (∃ o ∈ (front ++ [op]).getLast?, o.Starts) ↔ op.Starts := by simp
    rw [runAll_snoc, hlast]
    by_cases hs : op.Starts
    · exact Or.inl ⟨hs, armed_of_starts hs⟩
    · exact Or.inr ⟨hs, ended_of_not_starts hop hs⟩

/-- **One link at a time, exactly while nothing overtakes.** -/
theorem load_step_iff (hl : l.load ≤ 1) (ha : Admitted a) (h : (lamp w).step l a = some l') :
    l'.load ≤ 1 ↔ ¬ l.Overtakes a := by
  unfold load at hl ⊢
  obtain ⟨ops, rfl, rfl⟩ | ⟨lost, rfl, harm, rfl⟩ | ⟨n, rest, rfl, hp, rfl⟩ := step_cases h
  · dsimp only
    rcases @runAll_cases l.widget ops ha with rfl | ⟨hstart, harm⟩ | ⟨hno, -, hoff⟩
    · refine iff_of_true hl ?_
      rintro ⟨-, op, hop, -⟩
      cases hop
    · rw [if_pos harm]
      have hempty : l.pending.length + 1 ≤ 1 ↔ l.pending = [] := by
        rw [← List.length_eq_zero_iff]
        omega
      exact hempty.trans ⟨fun he hov => hov.1 he, fun hno => by_contra fun he => hno ⟨he, hstart⟩⟩
    · rw [if_neg hoff]
      exact iff_of_true (by omega) fun hov => hno hov.2
  · have hoff : ¬ l.widget.expire.mLedTimer.Armed := OneShot.not_armed_stop
    rw [if_pos harm] at hl
    refine iff_of_true ?_ id
    rw [if_neg hoff]
    cases lost
    · simp only [Bool.false_eq_true, if_false, List.length_append, List.length_singleton]
      omega
    · simp only [if_true]
      omega
  · rw [hp, List.length_cons] at hl
    refine iff_of_true ?_ id
    dsimp only
    split_ifs <;> omega

/-! ## Runs -/

/-- **The chain has one link at a time** in every state of a run exactly
when no step overtakes. -/
theorem single_iff (r : (lamp w).Run tr l) (ha : ∀ t ∈ tr, Admitted t.act) :
    (∀ x ∈ (lamp w).visited tr, x.load ≤ 1) ↔ ∀ t ∈ tr, ¬ t.src.Overtakes t.act := by
  refine r.forall_visited_iff (I := fun _ => True) (D := fun _ a => Admitted a)
    (C := fun l a => ¬ l.Overtakes a) trivial ?_ (fun _ _ => trivial) ?_ ha
  · change 0 + _ ≤ 1
    split_ifs <;> omega
  · exact fun _ hl hd h => load_step_iff hl hd h

/-- **An update that waits for a blinking widget** answers the last start
of its timer, and the expiry it was posted at ended the phase the widget is
still in. -/
structure Answers (tr : List (Transition Lamp LampAct)) (l : Lamp) : Prop where
  phased : l.widget.Phased
  expired : l.widget.Blinking → ∀ n ∈ l.pending, n = l.widget.mLedTimer.starts ∧
    ∃ u ∈ tr, (∃ lost, u.act = .expire lost) ∧
      u.src.widget.mLedTimer = ⟨some l.widget.phaseTime, n⟩

/-- Later, as long as the widget is what it was. -/
theorem Answers.mono {t : Transition Lamp LampAct} (h : Answers tr l) : Answers (tr ++ [t]) l := by
  refine ⟨h.phased, fun hb n hn => ?_⟩
  obtain ⟨heq, u, hu, hact, htimer⟩ := h.expired hb n hn
  exact ⟨heq, u, List.mem_append_left _ hu, hact, htimer⟩

/-- A step that does not overtake keeps it. -/
theorem Answers.step (h : Answers tr l) (hl : l.load ≤ 1) (ha : Admitted a)
    (hno : ¬ l.Overtakes a) (hstep : (lamp w).step l a = some l') :
    Answers (tr ++ [⟨l, a, l'⟩]) l' := by
  unfold load at hl
  obtain ⟨ops, rfl, rfl⟩ | ⟨lost, rfl, harm, rfl⟩ | ⟨n, rest, rfl, hp, rfl⟩ := step_cases hstep
  · have hphased : (LedOp.runAll ops l.widget).Phased := LEDWidget.Phased.runAll h.phased
    rcases @runAll_cases l.widget ops ha with rfl | ⟨hstart, -⟩ | ⟨-, hoff, -⟩
    · exact h.mono
    · have hempty : l.pending = [] := by_contra fun he => hno ⟨he, hstart⟩
      refine ⟨hphased, fun _ n hn => ?_⟩
      rw [hempty] at hn
      cases hn
    · exact ⟨hphased, fun hb => absurd hb hoff⟩
  · rw [if_pos harm] at hl
    have hempty : l.pending = [] := List.length_eq_zero_iff.1 (by omega)
    refine ⟨h.phased.expire, fun hb n hn => ?_⟩
    obtain rfl : n = l.widget.mLedTimer.starts := by
      rw [hempty] at hn
      cases lost
      · simpa using hn
      · cases hn
    obtain ⟨d, hd⟩ := Option.isSome_iff_exists.1 harm
    have htime : d = l.widget.phaseTime := (h.phased.running d hd).2
    refine ⟨rfl, _, List.mem_append_right _ List.mem_cons_self, ⟨lost, rfl⟩, ?_⟩
    change (⟨l.widget.mLedTimer.running, l.widget.mLedTimer.starts⟩ : OneShot UInt32) = _
    rw [hd, htime]
    rfl
  · rw [hp, List.length_cons] at hl
    obtain rfl : rest = [] := List.length_eq_zero_iff.1 (by omega)
    exact ⟨h.phased.run .updateState, fun _ _ hn => absurd hn List.not_mem_nil⟩

/-- **Where nothing overtakes**, what waits answers the last start. -/
theorem answers_of_run (hw : w.Phased) (r : (lamp w).Run tr l)
    (ha : ∀ t ∈ tr, Admitted t.act) (hno : ∀ t ∈ tr, ¬ t.src.Overtakes t.act) :
    Answers tr l := by
  induction r with
  | init => exact ⟨hw, fun _ n hn => absurd hn List.not_mem_nil⟩
  | @snoc tr l l' a r hstep ih =>
    rw [List.forall_mem_append, List.forall_mem_singleton] at ha hno
    have hload : l.load ≤ 1 := (single_iff r ha.1).2 hno.1 l r.mem_visited
    exact (ih ha.1 hno.1).step hload ha.2 hno.2 hstep

end Lamp

end SoilSensor
