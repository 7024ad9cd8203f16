import SoilSensor.TimeSync.Model.Delegate
/-!
# SetUTCTime is exact

A command is refused where its time does not fit the clock's epoch, and is
then as if it had never come; otherwise the clock is given the sum and the
last known good time the seconds, where these fit. What the attributes of
endpoint 0 say is what the last accepted command said; nothing else writes
them. `history` is that command, with the answers it met and the time that
has passed since.
-/

namespace SoilSensor

namespace TimeSync

variable {epoch : EpochConversion} {tr : List (Transition State Step)} {s s' : State}
variable {c : SetUTCTime} {answers : Answers}

/-- The command's time does not fit. -/
def Overflows (epoch : EpochConversion) (c : SetUTCTime) : Prop :=
  UInt64.size ≤ c.utcTime.toNat + epoch.offset

instance : Decidable (Overflows epoch c) := inferInstanceAs (Decidable (_ ≤ _))

/-! ## One command -/

/-- **A command that is refused**: nothing is different but that it was
answered. -/
def Refused (s s' : State) : Prop := s' = { s with statuses := s.statuses ++ [.invalidCommand] }

/-- **A command that is accepted.** The setters are called with the seconds
of the time, where these fit 32 bits, and with the time in the other
epoch. -/
structure Accepted (epoch : EpochConversion) (c : SetUTCTime) (s s' : State) : Prop where
  status : s'.statuses = s.statuses ++ [.success]
  utcTime : s'.mUtcTime = some c.utcTime
  timeSource : s'.mTimeSource = c.timeSource.getD .kNone
  calls : ∃ (seconds : UInt32) (micros : UInt64), micros.toNat = c.utcTime.toNat + epoch.offset ∧
    if c.utcTime.toNat / 1000000 < UInt32.size then
      seconds.toNat = c.utcTime.toNat / 1000000 ∧
        s'.calls = s.calls ++ [.setLastKnownGoodChipEpochTime seconds, .setClockRealTime micros]
    else s'.calls = s.calls ++ [.setClockRealTime micros]

theorem refused_of_overflows (h : Overflows epoch c) :
    Refused s (setUTCTimeCallback epoch answers c s) := by
  rw [Refused, setUTCTimeCallback, handleSetUtcTimeCommand, (epoch.eq_none_iff _).2 h]

/-- The division and the comparison of the handler are those of natural
numbers. -/
theorem seconds_le_iff {t : UInt64} :
    t / kMicrosecondsPerSecond ≤ UINT32_MAX ↔ t.toNat / 1000000 < UInt32.size := by
  rw [UInt64.le_iff_toNat_le, UInt64.toNat_div]
  change t.toNat / 1000000 ≤ 4294967295 ↔ t.toNat / 1000000 < 4294967296
  omega

/-- And where the seconds fit, narrowing them loses nothing. -/
theorem toNat_seconds {t : UInt64} (h : t.toNat / 1000000 < UInt32.size) :
    (t / kMicrosecondsPerSecond).toUInt32.toNat = t.toNat / 1000000 := by
  rw [UInt64.toNat_toUInt32, UInt64.toNat_div]
  exact Nat.mod_eq_of_lt h

theorem accepted_of_not_overflows (h : ¬ Overflows epoch c) :
    Accepted epoch c s (setUTCTimeCallback epoch answers c s) := by
  cases hconv : epoch.chipEpochToUnixEpochMicros c.utcTime with
  | none => exact absurd ((epoch.eq_none_iff _).1 hconv) h
  | some micros =>
    have hmicros := epoch.eq_some _ _ hconv
    have hcb : setUTCTimeCallback epoch answers c s =
        { (handleSetUtcTimeCommand epoch answers c s).2 with
          statuses := s.statuses ++ [.success] } := by
      rw [setUTCTimeCallback, handleSetUtcTimeCommand, hconv]
      dsimp only
      split_ifs <;> rfl
    rw [hcb, handleSetUtcTimeCommand, hconv]
    dsimp only
    -- the engine is told of the change last, and what it is told is not a setter's business
    have hframe : ∀ (engine : Bool) (u : State),
        (if engine then setDirty ⟨kRootEndpoint, .utcTime⟩ u else u).calls = u.calls ∧
        (if engine then setDirty ⟨kRootEndpoint, .utcTime⟩ u else u).mUtcTime = u.mUtcTime ∧
        (if engine then setDirty ⟨kRootEndpoint, .utcTime⟩ u else u).mTimeSource =
          u.mTimeSource := by
      intro engine u
      cases engine <;> exact ⟨rfl, rfl, rfl⟩
    refine ⟨rfl, ?_, ?_, (c.utcTime / kMicrosecondsPerSecond).toUInt32, micros, hmicros, ?_⟩
    · dsimp only
      rw [(hframe _ _).2.1]
      split_ifs <;> rfl
    · dsimp only
      rw [(hframe _ _).2.2]
      split_ifs <;> rfl
    · dsimp only
      rw [(hframe _ _).1]
      by_cases hfits : c.utcTime.toNat / 1000000 < UInt32.size
      · rw [if_pos hfits, if_pos (seconds_le_iff.2 hfits)]
        refine ⟨toNat_seconds hfits, ?_⟩
        simp [setClockRealTime, setLastKnownGoodChipEpochTime]
      · rw [if_neg hfits, if_neg fun hle => hfits (seconds_le_iff.1 hle)]
        rfl

/-! ## Histories -/

/-- An accepted command, the answers it met, and the time passed since. -/
structure Acceptance where
  command : SetUTCTime
  answers : Answers
  elapsed : ℕ
  deriving DecidableEq

/-- What a step makes of the last acceptance. -/
def note (epoch : EpochConversion) (last : Option Acceptance) : Step → Option Acceptance
  | .command c answers => if Overflows epoch c then last else some ⟨c, answers, 0⟩
  | .read _ | .write _ => last
  | .advance micros => last.map fun a => { a with elapsed := a.elapsed + micros }

/-- **The last acceptance of a run**, if there is one. -/
def history (epoch : EpochConversion) (tr : List (Transition State Step)) : Option Acceptance :=
  (tr.map Transition.act).foldl (note epoch) none

/-- The last accepted command. -/
def lastAccepted (epoch : EpochConversion) (tr : List (Transition State Step)) :
    Option SetUTCTime :=
  (history epoch tr).map Acceptance.command

@[simp] theorem history_snoc {t : Transition State Step} :
    history epoch (tr ++ [t]) = note epoch (history epoch tr) t.act := by
  simp [history]

/-- The members hold what the last accepted command said. -/
structure Faithful (last : Option SetUTCTime) (s : State) : Prop where
  utcTime : s.mUtcTime = last.map SetUTCTime.utcTime
  timeSource : s.mTimeSource = (last.bind SetUTCTime.timeSource).getD .kNone

/-- **The members are written by accepted commands only**, by induction on
the run. -/
theorem faithful_of_run {lastKnownGood : UInt32} {realTime : ℕ}
    (r : (timeSync epoch lastKnownGood realTime).Run tr s) :
    Faithful (lastAccepted epoch tr) s := by
  induction r with
  | init => exact ⟨rfl, rfl⟩
  | @snoc tr s s' a r hstep ih =>
    rw [lastAccepted, history_snoc]
    cases a with
    | command c answers =>
      cases hstep
      by_cases h : Overflows epoch c
      · rw [note, if_pos h, refused_of_overflows h]
        exact ⟨ih.utcTime, ih.timeSource⟩
      · obtain ⟨-, hutc, hsource, -⟩ := @accepted_of_not_overflows epoch s c answers h
        rw [note, if_neg h]
        exact ⟨hutc, hsource⟩
    | read => cases hstep; exact ih
    | write => cases hstep; exact ih
    | advance micros =>
      cases hstep
      have hcommand : (note epoch (history epoch tr) (.advance micros)).map Acceptance.command =
          lastAccepted epoch tr := by
        simp only [note, lastAccepted, Option.map_map]
        rfl
      rw [hcommand]
      exact ⟨ih.utcTime, ih.timeSource⟩

/-- **SetUTCTime is exact**, over every history of commands, reads and
writes: a command is refused exactly where its time overflows and then
changes nothing, and is carried out in full otherwise; reads and writes
change nothing, and no write is accepted; and the two attributes say what
the last accepted command said. -/
theorem setUTCTime_exact (epoch : EpochConversion) (lastKnownGood : UInt32) (realTime : ℕ)
    {tr : List (Transition State Step)} {s : State}
    (r : (timeSync epoch lastKnownGood realTime).Run tr s) :
    (∀ t ∈ tr, ∀ c answers, t.act = .command c answers →
      (Overflows epoch c → Refused t.src t.dst) ∧
        (¬ Overflows epoch c → Accepted epoch c t.src t.dst)) ∧
    (∀ t ∈ tr, ∀ path, t.act = .read path ∨ t.act = .write path → t.dst = t.src) ∧
    (∀ id, write ⟨kRootEndpoint, id⟩ = .imGlobalStatus .unsupportedWrite) ∧
    read ⟨kRootEndpoint, .utcTime⟩ s = .encode
      (match lastAccepted epoch tr with
        | some c => .uint64 c.utcTime
        | none => .null) ∧
    read ⟨kRootEndpoint, .timeSource⟩ s = .encode (.uint8
      (match lastAccepted epoch tr with
        | some c => c.timeSource.getD .kNone
        | none => TimeSourceEnum.kNone)) := by
  refine ⟨?_, ?_, fun _ => rfl, ?_, ?_⟩
  · intro t ht c answers hact
    obtain ⟨-, -, hstep, -⟩ := r.of_mem ht
    rw [hact] at hstep
    have hdst : setUTCTimeCallback epoch answers c t.src = t.dst := Option.some.inj hstep
    rw [← hdst]
    exact ⟨refused_of_overflows, accepted_of_not_overflows⟩
  · intro t ht path hact
    obtain ⟨-, -, hstep, -⟩ := r.of_mem ht
    rcases hact with hact | hact <;> rw [hact] at hstep <;> exact (Option.some.inj hstep).symm
  · obtain ⟨hutc, -⟩ := faithful_of_run r
    simp only [read, ne_eq, not_true_eq_false, if_false, hutc]
    cases lastAccepted epoch tr <;> rfl
  · obtain ⟨-, hsource⟩ := faithful_of_run r
    simp only [read, ne_eq, not_true_eq_false, if_false, hsource]
    cases lastAccepted epoch tr <;> rfl

/-- The epochs of the stack: both in microseconds, 30 years and seven leap
days apart. -/
def chipEpoch : EpochConversion where
  offset := 946684800000000
  chipEpochToUnixEpochMicros t :=
    if t.toNat + 946684800000000 < UInt64.size then some (t + 946684800000000) else none
  eq_none_iff t := by
    split_ifs with h
    · exact iff_of_false nofun (Nat.not_le.2 h)
    · exact iff_of_true rfl (Nat.not_lt.1 h)
  eq_some t u hu := by
    split_ifs at hu with h
    obtain rfl := Option.some.inj hu
    rw [UInt64.toNat_add]
    exact Nat.mod_eq_of_lt h

/-- A command at the last second the last known good time can hold, and one
that overflows. -/
theorem setUTCTime_exact_of_two : ∃ tr s, (timeSync chipEpoch 0 0).Run tr s ∧ tr.length = 2 ∧
    read ⟨kRootEndpoint, .utcTime⟩ s = .encode (.uint64 4294967295999999) ∧
    read ⟨kRootEndpoint, .timeSource⟩ s = .encode (.uint8 2) := by
  obtain ⟨tr, s, r, hlen, hlast⟩ := (timeSync chipEpoch 0 0).exists_run_of_exec
    [.command ⟨4294967295999999, some 2⟩ ⟨.noError, .other 1, true⟩,
      .command ⟨18446744073709551615, none⟩ ⟨.noError, .noError, true⟩]
    (fun tr _ => tr.length = 2 ∧ lastAccepted chipEpoch tr = some ⟨4294967295999999, some 2⟩)
    (by decide +kernel)
  obtain ⟨-, -, -, hutc, hsource⟩ := setUTCTime_exact chipEpoch 0 0 r
  rw [hlast] at hutc hsource
  exact ⟨tr, s, r, hlen, hutc, hsource⟩

end TimeSync

end SoilSensor
