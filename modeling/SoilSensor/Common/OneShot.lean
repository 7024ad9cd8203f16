import Mathlib.Data.Nat.Notation
/-!
# One-shot timers

A timer runs once for the time it is started with. Starting it again
replaces the time, stopping it forgets it, and expiring leaves it stopped.
`starts` counts the starts: it is read by no operation, and is there so
that an expiry can be said to answer one of them.
-/

/-- **A one-shot timer**: what it was last started with, while it runs. -/
structure OneShot (τ : Type*) where
  running : Option τ
  starts : ℕ

namespace OneShot

variable {τ : Type*} {t : OneShot τ} {d : τ}

/-- A timer that was never started. -/
def fresh : OneShot τ := ⟨none, 0⟩

/-- Start, or start again. -/
def start (d : τ) (t : OneShot τ) : OneShot τ := ⟨some d, t.starts + 1⟩

/-- Stop; an expiry leaves the timer in this state too. -/
def stop (t : OneShot τ) : OneShot τ := ⟨none, t.starts⟩

/-- The timer is running. -/
def Armed (t : OneShot τ) : Prop := t.running.isSome

instance : Decidable t.Armed := inferInstanceAs (Decidable (_ = _))

@[simp] theorem not_armed_fresh : ¬ (fresh : OneShot τ).Armed := by simp [fresh, Armed]

@[simp] theorem armed_start : (t.start d).Armed := by simp [start, Armed]

@[simp] theorem not_armed_stop : ¬ t.stop.Armed := by simp [stop, Armed]

@[simp] theorem start_starts : (t.start d).starts = t.starts + 1 := rfl

@[simp] theorem stop_starts : t.stop.starts = t.starts := rfl

@[simp] theorem start_running : (t.start d).running = some d := rfl

@[simp] theorem stop_running : t.stop.running = none := rfl

end OneShot
