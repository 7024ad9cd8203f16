import SoilSensor.Common.Ledger
import Mathlib.Data.Bool.Basic
/-!
# Timers that take their time

A machine with a one-shot timer, against a clock: time passes between its
steps, and the timer does not expire before the time it was started with
has passed. A run of the machine with its clock is a run of the machine
(`Run.unclocked`), in which expiries take time: an expiry comes no sooner
after a step that started the timer than it was started for (`Run.apart`),
and no more of them come than there has been time for (`Run.takes`).
-/

/-- **A state with a clock**: how long ago the timer was last started. -/
structure Clocked (σ : Type*) where
  state : σ
  since : ℕ

/-- What happens to it: time passes, or the machine takes a step. -/
inductive ClockAct (α : Type*)
  | pass (time : ℕ)
  | step (a : α)
  deriving DecidableEq

/-- The machine's step. -/
def ClockAct.step? {α : Type*} : ClockAct α → Option α
  | .pass _ => none
  | .step a => some a

theorem ClockAct.exists_step {α : Type*} {a : ClockAct α} (h : a.step?.isSome) :
    ∃ b, a = .step b := by
  cases a with
  | pass time => cases h
  | step b => exact ⟨b, rfl⟩

namespace Machine

variable {σ α : Type*} {M : Machine σ α}

/-- **The timer of a machine**: how long it was started for, while it runs,
which inputs are its expiry, and which steps start it. It runs after a step
that does not start it only if it ran before, and if that was no expiry. -/
structure Timer (M : Machine σ α) where
  running : σ → Option ℕ
  expires : α → Bool
  starts : σ → α → σ → Bool
  expire : ∀ {s a s'}, M.step s a = some s' → expires a → (running s).isSome
  kept : ∀ {s a s'}, M.step s a = some s' → starts s a s' = false → (running s').isSome →
    expires a = false ∧ (running s).isSome

/-- The time the timer was started for has passed. -/
def Timer.elapsed (T : M.Timer) (c : Clocked σ) : Bool :=
  (T.running c.state).all fun d => d ≤ c.since

/-- **The machine with a clock.** -/
def clocked (M : Machine σ α) (T : M.Timer) : Machine (Clocked σ) (ClockAct α) where
  init := ⟨M.init, 0⟩
  step
    | c, .pass time => some { c with since := c.since + time }
    | c, .step a =>
      if T.expires a && !T.elapsed c then none
      else (M.step c.state a).map fun s => ⟨s, if T.starts c.state a s then 0 else c.since⟩

variable {T : M.Timer} {c c' : Clocked σ} {a : α}
variable {tr : List (Transition (Clocked σ) (ClockAct α))}

/-- A step of the machine, under the clock. -/
theorem of_clocked_step (h : (M.clocked T).step c (.step a) = some c') :
    (T.expires a → T.elapsed c) ∧ M.step c.state a = some c'.state ∧
      c'.since = if T.starts c.state a c'.state then 0 else c.since := by
  simp only [clocked] at h
  split_ifs at h with hblocked
  obtain ⟨s, hs, rfl⟩ := Option.map_eq_some_iff.1 h
  refine ⟨fun hexp => ?_, hs, rfl⟩
  rw [hexp, Bool.true_and, Bool.not_eq_true', Bool.not_eq_false] at hblocked
  exact hblocked

/-- A step of the machine is taken once its time has come. -/
theorem clocked_step {s : σ} (h : M.step c.state a = some s) (hexp : T.expires a → T.elapsed c) :
    (M.clocked T).step c (.step a) =
      some ⟨s, if T.starts c.state a s then 0 else c.since⟩ := by
  have hnot : ¬ (T.expires a && !T.elapsed c) = true := by
    rw [Bool.and_eq_true, Bool.not_eq_true']
    rintro ⟨hexpires, helapsed⟩
    rw [hexp hexpires] at helapsed
    cases helapsed
  simp only [clocked]
  rw [if_neg hnot, h]
  rfl

/-- **Runs with a clock are runs.** -/
theorem Run.unclocked {s : Clocked σ} (r : ((M.clocked T).startAt s).Run tr c) :
    (M.startAt s.state).Run (tr.filterMap (projected Clocked.state ClockAct.step?)) c.state := by
  refine r.project rfl fun {c a c'} h => ?_
  cases a with
  | pass time =>
    obtain rfl := Option.some.inj h
    rfl
  | step a => exact (of_clocked_step h).2.1

/-- The time that counts and passes in a step. -/
def passing (counts : σ → Bool) (c : Clocked σ) : ClockAct α → ℕ
  | .pass time => if counts c.state then time else 0
  | .step _ => 0

/-- No more time is since the timer's start than has passed. -/
theorem since_le {s : Clocked σ} (r : ((M.clocked T).startAt s).Run tr c) :
    c.since ≤ s.since + tally (passing fun _ => true) tr := by
  induction r with
  | init => exact Nat.le_add_right _ _
  | @snoc tr c c' a r h ih =>
    rw [tally_snoc]
    cases a with
    | pass time =>
      obtain rfl := Option.some.inj h
      dsimp only [passing]
      rw [if_pos rfl]
      omega
    | step a =>
      have hsince := (of_clocked_step h).2.2
      dsimp only [passing]
      split_ifs at hsince <;> omega

/-- **A start and an expiry lie apart**, by what the timer that expires was
started for. -/
theorem Run.apart (r : (M.clocked T).Run tr c)
    {tr₁ tr₂ tr₃ : List (Transition (Clocked σ) (ClockAct α))}
    {t t' : Transition (Clocked σ) (ClockAct α)} (h : tr = tr₁ ++ t :: tr₂ ++ t' :: tr₃)
    {a a' : α} {d : ℕ} (ht : t.act = .step a) (ht' : t'.act = .step a')
    (hstarts : T.starts t.src.state a t.dst.state = true) (hexp : T.expires a' = true)
    (hrunning : T.running t'.src.state = some d) :
    d ≤ tally (passing fun _ => true) tr₂ := by
  obtain ⟨r₂, hlast⟩ := r.split h
  obtain ⟨-, hfirst⟩ := r₂.split rfl
  rw [ht] at hfirst
  rw [ht'] at hlast
  have hzero : t.dst.since = 0 := by
    rw [(of_clocked_step hfirst).2.2, if_pos hstarts]
  have hpassed : d ≤ t'.src.since := by
    have helapsed := (of_clocked_step hlast).1 hexp
    rw [Timer.elapsed, hrunning, Option.all_some] at helapsed
    exact of_decide_eq_true helapsed
  have hsince := since_le (r₂.rest rfl)
  omega

/-- The step is an expiry. -/
def Timer.isExpiry (T : M.Timer) (_c : Clocked σ) (a : ClockAct α) : Bool :=
  a.step?.any T.expires

/-- The time that has passed towards an expiry. -/
def Timer.towards (T : M.Timer) (least : ℕ) (c : Clocked σ) : ℕ :=
  if (T.running c.state).isSome then min c.since least else 0

/-- **Expiries take time.** Where the timer is never started for less than
`least`, and time counts whenever it runs, a run has no more expiries than
the time that counted, and what had passed towards the first, allow. -/
theorem Run.takes {s : Clocked σ} (least : ℕ) (counts : σ → Bool)
    (r : ((M.clocked T).startAt s).Run tr c)
    (hlong : ∀ t ∈ tr, ∀ d, T.running t.src.state = some d → least ≤ d)
    (hcounts : ∀ t ∈ tr, (T.running t.src.state).isSome → counts t.src.state) :
    T.towards least c + least * tr.countP (fun t => T.isExpiry t.src t.act) ≤
      T.towards least s + tally (passing counts) tr := by
  rw [← tally_toNat]
  refine r.weighed (V := T.towards least) (G := fun c _ =>
    (∀ d, T.running c.state = some d → least ≤ d) ∧
      ((T.running c.state).isSome → counts c.state)) ?_ fun t ht => ⟨hlong t ht, hcounts t ht⟩
  intro c a c' hG h
  cases a with
  | pass time =>
    obtain rfl := Option.some.inj h
    have hnone : T.isExpiry c (.pass time) = false := rfl
    rw [hnone, Timer.towards, Timer.towards, passing]
    by_cases harm : (T.running c.state).isSome
    · rw [if_pos harm, if_pos harm, if_pos (hG.2 harm)]
      simp only [Bool.toNat_false, Nat.mul_zero, Nat.add_zero]
      omega
    · rw [if_neg harm, if_neg harm]
      simp
  | step a =>
    obtain ⟨hexp, hstep, hsince⟩ := of_clocked_step h
    have hisExpiry : T.isExpiry c (.step a) = T.expires a := rfl
    -- what has passed towards the next expiry is kept, or starts at nothing
    have htowards : T.towards least c' ≤
        if T.expires a then 0 else T.towards least c := by
      rw [Timer.towards, hsince]
      by_cases harm : (T.running c'.state).isSome
      · cases hstarts : T.starts c.state a c'.state with
        | true => simp
        | false =>
          obtain ⟨hno, harm'⟩ := T.kept hstep hstarts harm
          refine Nat.le_of_eq ?_
          rw [if_pos harm, hno, if_neg Bool.false_ne_true, if_neg Bool.false_ne_true,
            Timer.towards, if_pos harm']
      · rw [if_neg harm]
        exact Nat.zero_le _
    rw [hisExpiry, passing, Nat.add_zero]
    cases ha : T.expires a with
    | true =>
      have harm := T.expire hstep ha
      obtain ⟨d, hd⟩ := Option.isSome_iff_exists.1 harm
      have hpassed : d ≤ c.since := by
        have hall := hexp ha
        rw [Timer.elapsed, hd, Option.all_some] at hall
        exact of_decide_eq_true hall
      have hleast := hG.1 d hd
      rw [ha, if_pos rfl] at htowards
      have hfull : T.towards least c = least := by
        rw [Timer.towards, if_pos harm]
        omega
      rw [hfull, Bool.toNat_true]
      omega
    | false =>
      rw [ha, if_neg Bool.false_ne_true] at htowards
      rw [Bool.toNat_false, Nat.mul_zero, Nat.add_zero]
      exact htowards

end Machine
