import SoilSensor.Common.Clock
import SoilSensor.Soil.Update
/-!
# How long the updates go on

`SoilUpdateTimer` starts its own timer again, and drops what `StartTimer`
answers. Against a clock no two updates are closer than five seconds
(`updates_apart`). They go on exactly as long as no `StartTimer` is refused:
nothing else starts the timer, so that the first refusal is the end of the
updates, with the last value left published (`updates_go_on`).
-/

namespace SoilSensor

open SoilMoistureSensor Machine

namespace SoilMoistureSensor

/-- What `StartTimer` answers in a tick. -/
def Tick.accepted : Tick → Bool
  | .init _ accepted | .expire _ accepted => accepted

/-- The tick is an expiry of the timer. -/
def Tick.isExpiry : Tick → Bool
  | .init _ _ => false
  | .expire _ _ => true

end SoilMoistureSensor

variable {C : SoilMeasurementCluster} {s s' : SoilState} {a : Tick}

/-- **Where a tick comes from**: from a started timer, or before all others.
It starts the timer if `StartTimer` accepts. -/
theorem tick_from (h : (soilSensor C).step s a = some s') :
    s'.timerStarted = a.accepted ∧
      if a.isExpiry then s.timerStarted = true else s.sSoilCluster = none := by
  cases a with
  | init draw accepted =>
    simp only [soilSensor] at h
    split_ifs at h with hnone
    obtain rfl := Option.some.inj h
    exact ⟨rfl, Option.isNone_iff_eq_none.1 hnone⟩
  | expire draw accepted =>
    simp only [soilSensor] at h
    split_ifs at h with hstarted
    obtain rfl := Option.some.inj h
    exact ⟨rfl, hstarted⟩

/-- **The sensor's timer**, which every accepted tick starts. -/
def updateTimer (C : SoilMeasurementCluster) : (soilSensor C).Timer where
  running s := if s.timerStarted then some kSoilUpdateMs.toNat else none
  expires := Tick.isExpiry
  starts _ a _ := a.accepted
  expire := by
    intro s a s' h ha
    have hstarted := (tick_from h).2
    rw [if_pos ha] at hstarted
    rw [if_pos hstarted]
    rfl
  kept := by
    intro s a s' h hrefused harm
    rw [(tick_from h).1, hrefused, if_neg Bool.false_ne_true] at harm
    cases harm

/-- **The sensor against a clock.** -/
def timedSensor (C : SoilMeasurementCluster) : Machine (Clocked SoilState) (ClockAct Tick) :=
  (soilSensor C).clocked (updateTimer C)

variable {tr : List (Transition (Clocked SoilState) (ClockAct Tick))} {c c' : Clocked SoilState}

/-- The updates of a trace. -/
def soilUpdates (tr : List (Transition (Clocked SoilState) (ClockAct Tick))) : ℕ :=
  tr.countP fun t => t.act.step?.isSome

/-- The step is an update whose `StartTimer` is refused. -/
def StartRefused (a : ClockAct Tick) : Prop := ∃ tick ∈ a.step?, tick.accepted = false

instance {a : ClockAct Tick} : Decidable (StartRefused a) :=
  inferInstanceAs (Decidable (∃ tick ∈ a.step?, _))

/-! ## The chain of timers -/

/-- **How far the updates have come**: a cluster was created by the first of
them, and the timer is started if none has been refused. -/
structure Chain (tr : List (Transition (Clocked SoilState) (ClockAct Tick)))
    (c : Clocked SoilState) : Prop where
  published : Published c.state
  fresh : c.state.sSoilCluster = none → ∀ t ∈ tr, t.act.step? = none
  started : c.state.timerStarted = true ↔
    c.state.sSoilCluster.isSome ∧ ∀ t ∈ tr, ¬ StartRefused t.act

theorem not_refused_pass {time : ℕ} : ¬ StartRefused (.pass time) := by
  rintro ⟨tick, hmem, -⟩
  cases hmem

/-- Before a tick nothing was refused. -/
theorem Chain.not_refused (hc : Chain tr c) (h : (soilSensor C).step c.state a = some s') :
    ∀ t ∈ tr, ¬ StartRefused t.act := by
  have hfrom := (tick_from h).2
  split_ifs at hfrom with ha
  · exact (hc.started.1 hfrom).2
  · intro t ht hrefused
    obtain ⟨tick, hmem, -⟩ := hrefused
    rw [hc.fresh hfrom t ht] at hmem
    cases hmem

theorem Chain.step {a : ClockAct Tick} (hc : Chain tr c)
    (h : (timedSensor C).step c a = some c') : Chain (tr ++ [⟨c, a, c'⟩]) c' := by
  cases a with
  | pass time =>
    obtain rfl := Option.some.inj h
    refine ⟨hc.published, fun hnone => ?_, hc.started.trans (and_congr_right fun _ => ?_)⟩
    · exact List.forall_mem_append.2 ⟨hc.fresh hnone, List.forall_mem_singleton.2 rfl⟩
    · rw [List.forall_mem_append, List.forall_mem_singleton]
      exact (and_iff_left not_refused_pass).symm
  | step tick =>
    have hstep := (of_clocked_step h).2.1
    obtain ⟨cluster, -, hcluster, -⟩ := tick_cases hc.published hstep
    refine ⟨hc.published.step hstep, fun hnone => ?_, ?_⟩
    · rw [hcluster] at hnone
      cases hnone
    · have hlast : ¬ StartRefused (.step tick) ↔ tick.accepted = true := by
        simp [StartRefused, ClockAct.step?]
      rw [(tick_from hstep).1, hcluster, List.forall_mem_append, List.forall_mem_singleton, hlast]
      exact ⟨fun haccepted => ⟨rfl, hc.not_refused hstep, haccepted⟩, fun h => h.2.2⟩

theorem chain_of_run (r : (timedSensor C).Run tr c) : Chain tr c := by
  induction r with
  | init =>
    refine ⟨published_boot, fun _ t ht => absurd ht List.not_mem_nil, fun h => ?_, fun h => ?_⟩
    · cases h
    · exact absurd h.1 Bool.false_ne_true
  | snoc _ h ih => exact ih.step h

/-- **An update that is refused has broken the chain.** -/
theorem Chain.step_of_refused {a : ClockAct Tick} (hc : Chain tr c)
    (hrefused : ∃ t ∈ tr, StartRefused t.act) (h : (timedSensor C).step c a = some c') :
    a.step? = none ∧ c'.state = c.state := by
  obtain ⟨t, ht, hr⟩ := hrefused
  cases a with
  | pass time =>
    obtain rfl := Option.some.inj h
    exact ⟨rfl, rfl⟩
  | step tick => exact absurd hr (hc.not_refused (of_clocked_step h).2.1 t ht)

/-! ## Runs -/

/-- **No two updates are closer than five seconds.** -/
theorem updates_apart (r : (timedSensor C).Run tr c)
    {tr₁ tr₂ tr₃ : List (Transition (Clocked SoilState) (ClockAct Tick))}
    {t t' : Transition (Clocked SoilState) (ClockAct Tick)} (h : tr = tr₁ ++ t :: tr₂ ++ t' :: tr₃)
    (ht : t.act.step?.isSome) (ht' : t'.act.step?.isSome) :
    kSoilUpdateMs.toNat ≤ tally (passing fun _ => true) tr₂ := by
  obtain ⟨r₂, hlast⟩ := r.split h
  obtain ⟨-, hfirst⟩ := r₂.split rfl
  have hchain := chain_of_run r₂
  have hmem : t ∈ tr₁ ++ t :: tr₂ := List.mem_append_right _ List.mem_cons_self
  obtain ⟨tick, htick⟩ := ClockAct.exists_step ht
  obtain ⟨tick', htick'⟩ := ClockAct.exists_step ht'
  rw [htick'] at hlast
  have hstep' := (of_clocked_step hlast).2.1
  -- the first was accepted, since there was another, and the other is an expiry
  have haccepted : tick.accepted = true := by
    by_contra hrefused
    refine hchain.not_refused hstep' t hmem ⟨tick, ?_, Bool.eq_false_of_not_eq_true hrefused⟩
    rw [htick]
    rfl
  have hexpiry : tick'.isExpiry = true := by
    by_contra hno
    have hnone := (tick_from hstep').2
    rw [if_neg hno] at hnone
    rw [hchain.fresh hnone t hmem] at ht
    cases ht
  have hstarted := (tick_from hstep').2
  rw [if_pos hexpiry] at hstarted
  exact Run.apart (T := updateTimer C) r h htick htick' haccepted hexpiry (if_pos hstarted)

/-- **The updates go on as long as no `StartTimer` is refused.** In every run
of the sensor against a clock any two updates are five seconds apart. While
none of them has been refused its timer, the next can come five
seconds later, whatever it draws; once one has been, none comes any more,
and what is published stays. -/
theorem updates_go_on (C : SoilMeasurementCluster)
    {tr : List (Transition (Clocked SoilState) (ClockAct Tick))} {c : Clocked SoilState}
    (r : (timedSensor C).Run tr c) :
    (∀ tr₁ t tr₂ t' tr₃, tr = tr₁ ++ t :: tr₂ ++ t' :: tr₃ → t.act.step?.isSome →
        t'.act.step?.isSome → kSoilUpdateMs.toNat ≤ tally (passing fun _ => true) tr₂) ∧
      (0 < soilUpdates tr → (∀ t ∈ tr, ¬ StartRefused t.act) → ∀ draw accepted, ∃ c₁ c₂,
        (timedSensor C).step c (.pass kSoilUpdateMs.toNat) = some c₁ ∧
          (timedSensor C).step c₁ (.step (.expire draw accepted)) = some c₂) ∧
      ((∃ t ∈ tr, StartRefused t.act) → ∀ tr' c', ((timedSensor C).startAt c).Run tr' c' →
        soilUpdates tr' = 0 ∧ c'.state = c.state) := by
  have hc := chain_of_run r
  refine ⟨fun _ _ _ _ _ h ht ht' => updates_apart r h ht ht', fun hpos hall draw accepted => ?_,
    fun hrefused tr' c' r' => ?_⟩
  · obtain ⟨t, ht, hsome⟩ := List.countP_pos_iff.1 hpos
    have hcreated : c.state.sSoilCluster.isSome := by
      refine Option.isSome_iff_ne_none.2 fun hnone => ?_
      rw [hc.fresh hnone t ht] at hsome
      cases hsome
    have hstarted : c.state.timerStarted = true := hc.started.2 ⟨hcreated, hall⟩
    refine ⟨_, _, rfl, clocked_step (if_pos hstarted) fun _ => ?_⟩
    have hrunning : (updateTimer C).running c.state = some kSoilUpdateMs.toNat := if_pos hstarted
    rw [Timer.elapsed, hrunning, Option.all_some]
    exact decide_eq_true (Nat.le_add_left _ _)
  · have hrest : Chain (tr ++ tr') c' ∧ soilUpdates tr' = 0 ∧ c'.state = c.state := by
      induction r' with
      | init => exact ⟨(List.append_nil tr).symm ▸ hc, rfl, rfl⟩
      | @snoc tr' c' c'' a r' h ih =>
        obtain ⟨hchain, hzero, hstate⟩ := ih
        obtain ⟨t, ht, hr⟩ := hrefused
        obtain ⟨hnone, hkept⟩ :=
          hchain.step_of_refused ⟨t, List.mem_append_left _ ht, hr⟩ h
        refine ⟨List.append_assoc .. ▸ hchain.step h, ?_, hkept.trans hstate⟩
        rw [soilUpdates, List.countP_append, ← soilUpdates, hzero]
        simp [hnone]
    exact hrest.2

/-- Refused at the second update, five seconds after the first. -/
theorem updates_go_on_until_refused : ∃ tr c, (timedSensor .checked).Run tr c ∧
    soilUpdates tr = 2 ∧ tally (passing fun _ => true) tr = 5000 ∧ c.state.published = some 8 ∧
    ∀ tr' c', ((timedSensor .checked).startAt c).Run tr' c' → c'.state.published = some 8 := by
  obtain ⟨tr, c, r, htwo, htime, height, hrefused⟩ := (timedSensor .checked).exists_run_of_exec
    [.step (.init 7 true), .pass 5000, .step (.expire 7 false)]
    (fun tr c => soilUpdates tr = 2 ∧ tally (passing fun _ => true) tr = 5000 ∧
      c.state.published = some 8 ∧ ∃ t ∈ tr, StartRefused t.act) (by decide +kernel)
  refine ⟨tr, c, r, htwo, htime, height, fun tr' c' r' => ?_⟩
  rw [((updates_go_on .checked r).2.2 hrefused tr' c' r').2]
  exact height

end SoilSensor
