import SoilSensor.Soil.Model.Sensor
/-!
# Every soil update is a change

A tick makes a value of a random draw, and bumps it by one where it is the
one before. The value is at most 100, which is what the limits given to
`Create` admit, so that the cluster stores it; and it is never the one
before, whatever the draw: `nextValue_ne` needs no bound on what it is told
apart from, and so covers the sentinel. Between ticks the cluster publishes
`gSoilLast` (`Published`), which makes of these two facts of one call a fact
of every tick of a run (`update_changes`).
-/

namespace SoilSensor

open SoilMoistureSensor

variable {C : SoilMeasurementCluster} {tr : List (Transition SoilState Tick)}
variable {s s' : SoilState} {a : Tick} {draw : UInt16} {last v : UInt8} {accepted : Bool}

/-- The value that is published. -/
def SoilState.published (s : SoilState) : Option Percent :=
  s.sSoilCluster.bind SoilCluster.measuredValue

/-! ## One value -/

/-- The remainder fits in eight bits. -/
theorem toNat_draw : (draw % 101).toUInt8.toNat = draw.toNat % 101 := by
  have hlt : draw.toNat % 101 < 101 := Nat.mod_lt _ (by omega)
  rw [UInt16.toNat_toUInt8, UInt16.toNat_mod]
  change draw.toNat % 101 % 256 = draw.toNat % 101
  omega

theorem toNat_nextValue : (nextValue draw last).toNat =
    if draw.toNat % 101 = last.toNat then (draw.toNat % 101 + 1) % 101 else draw.toNat % 101 := by
  have hiff : (draw % 101).toUInt8 = last ↔ draw.toNat % 101 = last.toNat := by
    rw [← UInt8.toNat_inj, toNat_draw]
  have hlt : (draw.toNat % 101 + 1) % 101 < 101 := Nat.mod_lt _ (by omega)
  by_cases h : draw.toNat % 101 = last.toNat
  · rw [nextValue, if_pos (hiff.2 h), if_pos h, toNat_draw, UInt8.toNat_ofNat']
    omega
  · rw [nextValue, if_neg fun heq => h (hiff.1 heq), if_neg h, toNat_draw]

/-- **The value is in the range of the limits.** -/
theorem admits_nextValue : limits.Admits (nextValue draw last) := by
  have hle : (nextValue draw last).toNat ≤ 100 := by
    rw [toNat_nextValue]
    split_ifs <;> omega
  constructor
  · change (0 : ℤ) ≤ _
    omega
  · change _ ≤ (100 : ℤ)
    omega

/-- **It is not the one before.** -/
theorem nextValue_ne : nextValue draw last ≠ last := by
  intro heq
  have hnat : (nextValue draw last).toNat = last.toNat := congrArg UInt8.toNat heq
  rw [toNat_nextValue] at hnat
  split_ifs at hnat with h
  · have hlt : draw.toNat % 101 < 101 := Nat.mod_lt _ (by omega)
    omega
  · exact h hnat

/-! ## One tick -/

/-- **Between ticks** a cluster, once it is created, has the limits of
`Init` and publishes `gSoilLast`; and a timer is started for a cluster
only. -/
structure Published (s : SoilState) : Prop where
  limits : ∀ c, s.sSoilCluster = some c → c.limits = limits
  value : ∀ c, s.sSoilCluster = some c → c.measuredValue = some s.gSoilLast
  created : s.timerStarted → s.sSoilCluster.isSome

/-- **The update of a tick**: the cluster publishes a value that the limits
it was created with admit, that is remembered, and that it did not publish
before. -/
def Updated (s s' : SoilState) : Prop :=
  ∃ c v, s'.sSoilCluster = some c ∧ c.measuredValue = some v ∧ c.limits.Admits v ∧
    s'.gSoilLast = v ∧ s.published ≠ some v

/-- What a tick leaves: a cluster that publishes the value it made. -/
theorem tick_cases (hs : Published s) (h : (soilSensor C).step s a = some s') :
    ∃ c draw, s'.sSoilCluster = some c ∧ c.limits = limits ∧
      c.measuredValue = some (nextValue draw s.gSoilLast) ∧
      s'.gSoilLast = nextValue draw s.gSoilLast := by
  cases a with
  | init draw accepted =>
    simp only [soilSensor] at h
    split_ifs at h
    cases h
    exact ⟨_, draw, rfl, rfl, C.stores _ _ _ admits_nextValue, rfl⟩
  | expire draw accepted =>
    simp only [soilSensor] at h
    split_ifs at h with hstarted
    cases h
    obtain ⟨c, hc⟩ := Option.isSome_iff_exists.1 (hs.created hstarted)
    refine ⟨setSoilMoistureMeasuredValue C (some (nextValue draw s.gSoilLast)) c, draw, ?_, ?_, ?_,
      rfl⟩
    · simp [soilUpdateTimer, hc]
    · exact hs.limits c hc
    · refine C.stores _ _ _ ?_
      rw [hs.limits c hc]
      exact admits_nextValue

theorem Published.step (hs : Published s) (h : (soilSensor C).step s a = some s') :
    Published s' := by
  obtain ⟨c, draw, hc, hlimits, hvalue, hlast⟩ := tick_cases hs h
  refine ⟨fun d hd => ?_, fun d hd => ?_, fun _ => by rw [hc]; rfl⟩
  · obtain rfl : c = d := Option.some.inj (hc.symm.trans hd)
    exact hlimits
  · obtain rfl : c = d := Option.some.inj (hc.symm.trans hd)
    rw [hvalue, hlast]

/-- **A tick is an update.** What was published before is `gSoilLast`, or
nothing yet. -/
theorem Published.updated (hs : Published s) (h : (soilSensor C).step s a = some s') :
    Updated s s' := by
  obtain ⟨c, draw, hc, hlimits, hvalue, hlast⟩ := tick_cases hs h
  refine ⟨c, _, hc, hvalue, ?_, hlast, fun heq => ?_⟩
  · rw [hlimits]
    exact admits_nextValue
  · cases hbefore : s.sSoilCluster with
    | none =>
      rw [SoilState.published, hbefore] at heq
      cases heq
    | some d =>
      rw [SoilState.published, hbefore] at heq
      have hsame := (hs.value d hbefore).symm.trans heq
      exact nextValue_ne (Option.some.inj hsame).symm

/-! ## Runs -/

theorem published_boot : Published .boot where
  limits _ h := absurd h (Option.some_ne_none _).symm
  value _ h := absurd h (Option.some_ne_none _).symm
  created h := absurd h Bool.false_ne_true

/-- The ticks of a sequence of draws: `Init`, and an expiry for each of the
rest. -/
def ticks (draws : ℕ → UInt16) : ℕ → Tick
  | 0 => .init (draws 0) true
  | n + 1 => .expire (draws (n + 1)) true

/-- **Draws without an end** are those of an endless run. -/
theorem exists_endless_ticks (C : SoilMeasurementCluster) (draws : ℕ → UInt16) :
    ∃ ss, (soilSensor C).Endless ss (ticks draws) := by
  refine Machine.exists_endless (I := fun n s =>
    (n = 0 → s.sSoilCluster.isNone = true) ∧ (n ≠ 0 → s.timerStarted = true)) ?_ ?_
  · exact ⟨fun _ => rfl, fun h => absurd rfl h⟩
  · intro n s hs
    cases n with
    | zero => exact ⟨_, if_pos (hs.1 rfl), fun h => absurd h (Nat.succ_ne_zero 0), fun _ => rfl⟩
    | succ n =>
      have hstarted : s.timerStarted = true := hs.2 (Nat.succ_ne_zero n)
      exact ⟨_, if_pos hstarted, fun h => absurd h (Nat.succ_ne_zero _), fun _ => rfl⟩

/-- **Every soil update is in range and is a change**: at every tick of a
run of any length, and of a run without an end, which every sequence of
draws has. -/
theorem update_changes (C : SoilMeasurementCluster) :
    (∀ (tr : List (Transition SoilState Tick)) (s : SoilState), (soilSensor C).Run tr s →
      ∀ t ∈ tr, Updated t.src t.dst) ∧
    ∀ draws : ℕ → UInt16, ∃ ss, (soilSensor C).Endless ss (ticks draws) ∧
      ∀ n, Updated (ss n) (ss (n + 1)) := by
  have hpublished : ∀ {tr s}, (soilSensor C).Run tr s → Published s := fun r =>
    r.invariant published_boot fun hs h => hs.step h
  constructor
  · intro tr s r t ht
    obtain ⟨tr₁, r₁, hstep, -⟩ := r.of_mem ht
    exact (hpublished r₁).updated hstep
  · intro draws
    obtain ⟨ss, hss⟩ := exists_endless_ticks C draws
    exact ⟨ss, hss, fun n => (hpublished (hss.run n)).updated (hss.step n)⟩

/-- A cluster that stores what is within its limits, and nothing else. -/
def SoilMeasurementCluster.checked : SoilMeasurementCluster where
  setSoilMoistureMeasuredValue limits value held :=
    match value with
    | none => none
    | some v => if limits.Admits v then some v else held
  stores _ _ _ h := if_pos h

/-- The same draw twice: from 100 the second value wraps to 0. -/
theorem update_changes_repeated : ∃ tr s, (soilSensor .checked).Run tr s ∧ tr.length = 2 ∧
    s.published = some 0 ∧ ∀ t ∈ tr, Updated t.src t.dst := by
  obtain ⟨tr, s, r, hlen, hzero⟩ := (soilSensor .checked).exists_run_of_exec
    [.init 100 true, .expire 100 true] (fun tr s => tr.length = 2 ∧ s.published = some 0)
    (by decide +kernel)
  exact ⟨tr, s, r, hlen, hzero, (update_changes .checked).1 tr s r⟩

end SoilSensor
