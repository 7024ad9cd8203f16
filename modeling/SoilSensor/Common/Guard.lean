import Mathlib.Data.List.Basic
/-!
# Guarded registrations

An object is to be added to a registry once, and a flag guards the calls
that add it: a call that finds the flag set does nothing, and any other
asks the registry, which accepts the object or refuses it. What becomes of
the flag then is the caller's rule. A rule that takes no refusal for an
acceptance, nor an acceptance for a refusal, keeps the flag honest
(`Honest.call_iff`), and lets a later call try again (`tries_call_iff`).
-/

/-- **A guarded registry**: the flag, and what is registered. -/
structure Guarded (α : Type*) where
  flag : Bool
  registry : List α

namespace Guarded

variable {α : Type*} {g : Guarded α} {x : α} {before : List α}
variable {rule : Bool → Bool} {accepted : Bool}

/-- A guarded call. `rule` is what it makes of the registry's answer. -/
def call (rule : Bool → Bool) (x : α) (accepted : Bool) (g : Guarded α) : Guarded α :=
  if g.flag then g
  else ⟨rule accepted, if accepted then x :: g.registry else g.registry⟩

theorem call_of_flag (h : g.flag = true) : g.call rule x accepted = g := if_pos h

theorem call_of_not_flag (h : g.flag = false) : g.call rule x accepted =
    ⟨rule accepted, if accepted then x :: g.registry else g.registry⟩ := by
  rw [call, h]
  rfl

@[simp] theorem flag_call : (g.call rule x accepted).flag = (g.flag || rule accepted) := by
  cases hflag : g.flag with
  | true => rw [call_of_flag hflag, hflag, Bool.true_or]
  | false => rw [call_of_not_flag hflag, Bool.false_or]

/-- **The flag does not lie**: where it is set the object was added, once,
to what was there before, and where it is not, nothing was. -/
def Honest (x : α) (before : List α) (g : Guarded α) : Prop :=
  g.registry = if g.flag then x :: before else before

/-- **A call tries where the flag is not set**: what is accepted is added,
and a refusal leaves the flag as it is, for a later call. -/
def Tries (x : α) (accepted : Bool) (g g' : Guarded α) : Prop :=
  g.flag = false → if accepted then g'.registry = x :: g.registry else g'.flag = false

theorem honest_init : Honest x before ⟨false, before⟩ := rfl

theorem Honest.registry_eq (h : g.Honest x before) (hflag : g.flag = true) :
    g.registry = x :: before := by
  rw [h, hflag]
  rfl

/-- **A call keeps an honest flag honest exactly if** it reads the answer as
it was given. -/
theorem Honest.call_iff (h : g.Honest x before) : (g.call rule x accepted).Honest x before ↔
    (g.flag = false → rule accepted = accepted) := by
  cases hflag : g.flag with
  | true =>
    rw [call_of_flag hflag]
    exact iff_of_true h fun hc => absurd hc.symm Bool.false_ne_true
  | false =>
    have hbefore : g.registry = before := by
      rw [h, hflag]
      rfl
    rw [call_of_not_flag hflag, Honest, hbefore]
    cases accepted <;> cases rule _ <;> simp

/-- **A call tries exactly if no refusal sets the flag.** -/
theorem tries_call_iff : g.Tries x accepted (g.call rule x accepted) ↔
    (g.flag = false → accepted = false → rule false = false) := by
  refine imp_congr_right fun hflag => ?_
  rw [call_of_not_flag hflag]
  cases accepted <;> simp

end Guarded
