import SoilSensor.TimeSync.Command
/-!
# What a command reports

An accepted command writes two members that attributes are read from, and
marks one path dirty. The other attribute's path is not marked, so that a
subscriber misses the change unless the command repeats the time source the
delegate had (`changes_marked_iff`).
-/

namespace SoilSensor

namespace TimeSync

variable {epoch : EpochConversion} {answers : Answers} {c : SetUTCTime} {s s' : State}
variable {path : AttributePath}

/-- **The paths marked dirty** on the way from one state to another. -/
def marked (s s' : State) : List AttributePath := s'.dirty.drop s.dirty.length

/-- A read looks at the two members only, each for one attribute. -/
theorem read_congr (hutc : path.mAttributeId = .utcTime → s'.mUtcTime = s.mUtcTime)
    (hsource : path.mAttributeId = .timeSource → s'.mTimeSource = s.mTimeSource) :
    read path s' = read path s := by
  unfold read
  cases hid : path.mAttributeId with
  | utcTime => rw [hutc hid]
  | timeSource => rw [hsource hid]
  | _ => rfl

theorem handle_of_overflows (h : Overflows epoch c) :
    handleSetUtcTimeCommand epoch answers c s = (.invalidCommand, s) := by
  rw [handleSetUtcTimeCommand, (epoch.eq_none_iff _).2 h]

/-- **An accepted command with the engine present** writes the members and
marks the one path. -/
theorem handle_of_not_overflows (h : ¬ Overflows epoch c) (hengine : answers.engine = true) :
    (handleSetUtcTimeCommand epoch answers c s).1 = .success ∧
      (handleSetUtcTimeCommand epoch answers c s).2.mTimeSource = c.timeSource.getD .kNone ∧
      marked s (handleSetUtcTimeCommand epoch answers c s).2 = [⟨kRootEndpoint, .utcTime⟩] := by
  cases hconv : epoch.chipEpochToUnixEpochMicros c.utcTime with
  | none => exact absurd ((epoch.eq_none_iff _).1 hconv) h
  | some micros =>
    simp only [handleSetUtcTimeCommand, hconv, hengine, if_true]
    refine ⟨trivial, ?_, ?_⟩
    · split_ifs <;> rfl
    · have hdirty : ∀ u : State, u.dirty = s.dirty →
          marked s (setDirty ⟨kRootEndpoint, .utcTime⟩ (setClockRealTime answers.clock micros u)) =
            [⟨kRootEndpoint, .utcTime⟩] := by
        intro u hu
        simp [marked, setDirty, setClockRealTime, hu]
      split_ifs <;> exact hdirty _ rfl

/-- **Every change is reported exactly if** there is none, or the time
source stays. A command that is refused reports none. -/
theorem changes_marked_iff (epoch : EpochConversion) (lastKnownGood clock : ChipError)
    (c : SetUTCTime) (s : State) :
    ((∀ path, path.mEndpointId = kRootEndpoint →
        read path (handleSetUtcTimeCommand epoch ⟨lastKnownGood, clock, true⟩ c s).2 ≠
          read path s →
        path ∈ marked s (handleSetUtcTimeCommand epoch ⟨lastKnownGood, clock, true⟩ c s).2) ∧
      ((handleSetUtcTimeCommand epoch ⟨lastKnownGood, clock, true⟩ c s).1 ≠ .success →
        marked s (handleSetUtcTimeCommand epoch ⟨lastKnownGood, clock, true⟩ c s).2 = [])) ↔
      Overflows epoch c ∨ c.timeSource.getD .kNone = s.mTimeSource := by
  by_cases h : Overflows epoch c
  · refine iff_of_true ⟨fun path _ hne => ?_, fun _ => ?_⟩ (Or.inl h)
    · rw [handle_of_overflows h] at hne
      exact absurd rfl hne
    · rw [handle_of_overflows h, marked, List.drop_length]
  · obtain ⟨hok, hsource, hmarked⟩ :=
      @handle_of_not_overflows epoch ⟨lastKnownGood, clock, true⟩ c s h rfl
    rw [or_iff_right h, hmarked]
    constructor
    · rintro ⟨hall, -⟩
      by_contra hne
      -- the time source is read differently, and its path is not the one that is marked
      have hread := hall ⟨kRootEndpoint, .timeSource⟩ rfl fun heq => hne ?_
      · exact absurd (List.mem_singleton.1 hread) (by decide)
      · simp only [read, ne_eq, not_true_eq_false, if_false, hsource] at heq
        injection heq with hvalue
        injection hvalue
    · intro hsame
      refine ⟨fun path hroot hne => List.mem_singleton.2 ?_, fun hno => absurd hok hno⟩
      by_contra hpath
      refine hne (read_congr (fun hutc => ?_) fun _ => hsource.trans hsame)
      exact absurd (by rw [← hroot, ← hutc]) hpath

/-- **A change that is not reported**: the time source of the first command
that names one. -/
theorem timeSource_not_marked :
    ¬ ∀ (epoch : EpochConversion) (lastKnownGood clock : ChipError) (c : SetUTCTime) (s : State),
      (∀ path, path.mEndpointId = kRootEndpoint →
        read path (handleSetUtcTimeCommand epoch ⟨lastKnownGood, clock, true⟩ c s).2 ≠
          read path s →
        path ∈ marked s (handleSetUtcTimeCommand epoch ⟨lastKnownGood, clock, true⟩ c s).2) ∧
      ((handleSetUtcTimeCommand epoch ⟨lastKnownGood, clock, true⟩ c s).1 ≠ .success →
        marked s (handleSetUtcTimeCommand epoch ⟨lastKnownGood, clock, true⟩ c s).2 = []) := by
  intro hall
  have hread := (hall chipEpoch .noError .noError ⟨0, some 2⟩ (boot 0 0)).1
    ⟨kRootEndpoint, .timeSource⟩ rfl (by decide)
  exact absurd hread (by decide)

end TimeSync

end SoilSensor
