import SoilSensor.TimeSync.Command
/-!
# The reported time and the clock

`UTCTime` is the time of a command and not of a clock: the handler stores
it and sets the clock to it, and from then on only the clock moves.
`reported_time_lags` says how far the two are apart at a read, which is by
the time that has passed, and that the granularity reported with the time
is the one that stands for none, whether or not there is a time.
-/

namespace SoilSensor

namespace TimeSync

variable {epoch : EpochConversion} {tr : List (Transition State Step)} {s : State}
variable {c : SetUTCTime} {answers : Answers}

/-- The clock is set where its setter accepts. -/
theorem realTime_setUTCTimeCallback (h : ¬ Overflows epoch c) (hclock : answers.clock = .noError) :
    (setUTCTimeCallback epoch answers c s).realTime = c.utcTime.toNat + epoch.offset := by
  cases hconv : epoch.chipEpochToUnixEpochMicros c.utcTime with
  | none => exact absurd ((epoch.eq_none_iff _).1 hconv) h
  | some micros =>
    rw [← epoch.eq_some _ _ hconv, setUTCTimeCallback, handleSetUtcTimeCommand, hconv]
    simp only [setClockRealTime, hclock, if_true]
    split_ifs <;> rfl

/-- The clock's setter is the last that an accepted command calls. -/
theorem getLast_calls_of_accepted {s' : State} (h : Accepted epoch c s s') :
    ∃ micros : UInt64, micros.toNat = c.utcTime.toNat + epoch.offset ∧
      s'.calls.getLast? = some (.setClockRealTime micros) := by
  obtain ⟨seconds, micros, hmicros, hcalls⟩ := h.calls
  refine ⟨micros, hmicros, ?_⟩
  split_ifs at hcalls
  · rw [hcalls.2]
    simp
  · rw [hcalls]
    simp

/-- **The clock since an acceptance**: it was handed the command's time,
and where it took it, it has moved on by what has passed. -/
structure KeptSince (epoch : EpochConversion) (a : Acceptance) (s : State) : Prop where
  handed : ∃ micros : UInt64, micros.toNat = a.command.utcTime.toNat + epoch.offset ∧
    s.calls.getLast? = some (.setClockRealTime micros)
  clock : a.answers.clock = .noError →
    s.realTime = a.command.utcTime.toNat + epoch.offset + a.elapsed

/-- **Every step keeps it**, the acceptance noted as the step requires. -/
theorem keptSince_of_run {lastKnownGood : UInt32} {realTime : ℕ}
    (r : (timeSync epoch lastKnownGood realTime).Run tr s) :
    ∀ a, history epoch tr = some a → KeptSince epoch a s := by
  induction r with
  | init => intro a ha; cases ha
  | @snoc tr s s' step r hstep ih =>
    intro a ha
    rw [history_snoc] at ha
    cases step with
    | command c answers =>
      cases hstep
      by_cases h : Overflows epoch c
      · rw [note, if_pos h] at ha
        rw [refused_of_overflows h]
        obtain ⟨hhanded, hclock⟩ := ih a ha
        exact ⟨hhanded, hclock⟩
      · rw [note, if_neg h] at ha
        obtain rfl := Option.some.inj ha
        exact ⟨getLast_calls_of_accepted (accepted_of_not_overflows h),
          fun hc => realTime_setUTCTimeCallback h hc⟩
    | read => cases hstep; exact ih a ha
    | write => cases hstep; exact ih a ha
    | advance micros =>
      cases hstep
      obtain ⟨b, hb, rfl⟩ := Option.map_eq_some_iff.1 ha
      obtain ⟨hhanded, hclock⟩ := ih b hb
      refine ⟨hhanded, fun hc => ?_⟩
      -- the clock and the note of it move together
      have hbefore := hclock hc
      change s.realTime + micros = b.command.utcTime.toNat + epoch.offset + (b.elapsed + micros)
      omega

/-- **The reported time lags the clock.** At every read that answers with a
time, that time is what the last accepted command handed to the clock, and
the clock, where it took it, is ahead of it by the time passed since. The
granularity is none at every read. -/
theorem reported_time_lags (epoch : EpochConversion) (lastKnownGood : UInt32) (realTime : ℕ)
    {tr : List (Transition State Step)} {s : State}
    (r : (timeSync epoch lastKnownGood realTime).Run tr s) :
    (∀ utcTime, read ⟨kRootEndpoint, .utcTime⟩ s = .encode (.uint64 utcTime) →
      ∃ a, history epoch tr = some a ∧
        (∃ micros : UInt64, micros.toNat = utcTime.toNat + epoch.offset ∧
          s.calls.getLast? = some (.setClockRealTime micros)) ∧
        (a.answers.clock = .noError →
          s.realTime = utcTime.toNat + epoch.offset + a.elapsed)) ∧
    read ⟨kRootEndpoint, .granularity⟩ s = .encode (.uint8 kNoTimeGranularity) := by
  refine ⟨fun utcTime hread => ?_, rfl⟩
  obtain ⟨hutc, -⟩ := faithful_of_run r
  cases hh : history epoch tr with
  | none =>
    simp only [lastAccepted, hh, Option.map_none] at hutc
    simp [read, hutc] at hread
  | some a =>
    simp only [lastAccepted, hh, Option.map_some] at hutc
    obtain rfl : a.command.utcTime = utcTime := by simpa [read, hutc] using hread
    obtain ⟨hhanded, hclock⟩ := keptSince_of_run r a hh
    exact ⟨a, rfl, hhanded, hclock⟩

/-- **It does not keep up**: a second after a command that set the clock,
the reported time is a second behind. And it is reported with no
granularity. -/
theorem reported_time_not_clock :
    (¬ ∀ (epoch : EpochConversion) (lastKnownGood : UInt32) (realTime : ℕ)
      (tr : List (Transition State Step)) (s : State),
      (timeSync epoch lastKnownGood realTime).Run tr s →
        ∀ utcTime, read ⟨kRootEndpoint, .utcTime⟩ s = .encode (.uint64 utcTime) →
          utcTime.toNat + epoch.offset = s.realTime) ∧
    (¬ ∀ (epoch : EpochConversion) (lastKnownGood : UInt32) (realTime : ℕ)
      (tr : List (Transition State Step)) (s : State),
      (timeSync epoch lastKnownGood realTime).Run tr s →
        (read ⟨kRootEndpoint, .granularity⟩ s = .encode (.uint8 kNoTimeGranularity) ↔
          read ⟨kRootEndpoint, .utcTime⟩ s = .encode .null)) := by
  obtain ⟨tr, s, r, hread, hclock⟩ := (timeSync chipEpoch 0 0).exists_run_of_exec
    [.command ⟨0, none⟩ ⟨.noError, .noError, true⟩, .advance 1000000]
    (fun _ s => read ⟨kRootEndpoint, .utcTime⟩ s = .encode (.uint64 0) ∧
      s.realTime = 946684801000000) (by decide +kernel)
  constructor
  · intro hall
    have heq := hall _ _ _ tr s r 0 hread
    rw [hclock] at heq
    exact absurd heq (by decide)
  · intro hall
    have hnull := (hall _ _ _ tr s r).1 rfl
    rw [hread] at hnull
    cases hnull

/-- A read after a command whose clock was set, and two that passed time. -/
theorem reported_time_lags_of_advance : ∃ tr s, (timeSync chipEpoch 0 0).Run tr s ∧
    s.realTime = 5 + chipEpoch.offset + 30 := by
  obtain ⟨tr, s, r, hread, hh⟩ := (timeSync chipEpoch 0 0).exists_run_of_exec
    [.command ⟨5, none⟩ ⟨.noError, .noError, true⟩, .advance 10,
      .command ⟨18446744073709551615, none⟩ ⟨.noError, .noError, true⟩, .advance 20]
    (fun tr s => read ⟨kRootEndpoint, .utcTime⟩ s = .encode (.uint64 5) ∧
      history chipEpoch tr = some ⟨⟨5, none⟩, ⟨.noError, .noError, true⟩, 30⟩)
    (by decide +kernel)
  obtain ⟨a, ha, -, hclock⟩ := (reported_time_lags chipEpoch 0 0 r).1 5 hread
  rw [hh] at ha
  obtain rfl := Option.some.inj ha
  exact ⟨tr, s, r, hclock rfl⟩

end TimeSync

end SoilSensor
