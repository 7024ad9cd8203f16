import Mathlib.Data.Option.Basic
/-!
# Values with a default

A value is held as it was stored, and read back by a function that may
fail. At a start the default is due where nothing is read, and where what
is read does not pass a test; storing it may be refused. A start spares
what was read exactly if that passes the test or the store is refused
(`provisions_start_iff`), and once something is read something is read ever
after (`isSome_get_start`), so that no default need be due again
(`spares_start_iff`).
-/

/-- **A value with a default**: how what is held is read, which values the
test keeps, and the default with the value it is read as. -/
structure Defaulted (τ α : Type*) where
  read : τ → Option α
  keeps : α → Bool
  default : τ
  value : α
  read_default : read default = some value
  keeps_value : keeps value

namespace Defaulted

variable {τ α : Type*} {D : Defaulted τ α} {held : Option τ} {accepted : Bool}

/-- What is read of what is held. -/
def get (D : Defaulted τ α) (held : Option τ) : Option α := held.bind D.read

/-- The default is due. -/
def due (D : Defaulted τ α) (held : Option τ) : Bool :=
  match D.get held with
  | none => true
  | some v => !D.keeps v

/-- **A start**: a default that is due is stored, if that is accepted. -/
def start (D : Defaulted τ α) (accepted : Bool) (held : Option τ) : Option τ :=
  if D.due held then if accepted then some D.default else held else held

/-- **A start provisions**: it leaves what is read alone, and puts the
default where nothing is. -/
structure Provisions (D : Defaulted τ α) (held held' : Option τ) : Prop where
  kept : ∀ v, D.get held = some v → D.get held' = some v
  filled : D.get held = none → D.get held' = some D.value

theorem due_of_get_eq_none (h : D.get held = none) : D.due held = true := by
  rw [due, h]

theorem due_of_get_eq_some {v : α} (h : D.get held = some v) : D.due held = !D.keeps v := by
  rw [due, h]

theorem get_start : D.get (D.start accepted held) =
    if D.due held ∧ accepted then some D.value else D.get held := by
  cases hdue : D.due held <;> cases accepted <;> simp [start, hdue, get, D.read_default]

/-- **Once something is read**, something is read after every start. -/
theorem isSome_get_start (h : (D.get held).isSome) : (D.get (D.start accepted held)).isSome := by
  rw [get_start]
  split
  · rfl
  · exact h

/-- And after a start at which no store was refused. -/
theorem isSome_get_start_of_due (h : D.due held = true → accepted = true) :
    (D.get (D.start accepted held)).isSome := by
  cases hget : D.get held with
  | none =>
    have hdue := due_of_get_eq_none hget
    rw [get_start, if_pos ⟨hdue, h hdue⟩]
    rfl
  | some v =>
    refine isSome_get_start ?_
    rw [hget]
    rfl

/-- **What a start spares.** Nothing is lost, and what was missing is there
after it, exactly if the store of a missing value is accepted, and that of
any other is refused unless the test keeps the value. -/
theorem provisions_start_iff : D.Provisions held (D.start accepted held) ↔
    (D.get held = none → accepted = true) ∧
      ∀ v, D.get held = some v → D.keeps v = true ∨ accepted = false := by
  cases hget : D.get held with
  | none =>
    have hafter := @get_start _ _ D held accepted
    rw [due_of_get_eq_none hget, hget] at hafter
    constructor
    · intro h
      have hfilled := h.filled hget
      rw [hafter] at hfilled
      refine ⟨fun _ => ?_, nofun⟩
      by_contra hrefused
      rw [if_neg fun hc => hrefused hc.2] at hfilled
      cases hfilled
    · intro h
      refine ⟨fun v hv => absurd (hget.symm.trans hv) nofun, fun _ => ?_⟩
      rw [hafter, if_pos ⟨rfl, h.1 rfl⟩]
  | some v =>
    have hafter := @get_start _ _ D held accepted
    rw [due_of_get_eq_some hget, hget] at hafter
    constructor
    · intro h
      refine ⟨nofun, fun w hw => ?_⟩
      obtain rfl : v = w := Option.some.inj hw
      by_contra hno
      obtain ⟨hkeeps, haccepted⟩ := not_or.1 hno
      rw [Bool.not_eq_true] at hkeeps
      rw [Bool.not_eq_false] at haccepted
      have hkept := h.kept v hget
      rw [hafter, hkeeps, haccepted, if_pos ⟨rfl, rfl⟩] at hkept
      -- the default passes its own test
      rw [← Option.some.inj hkept, D.keeps_value] at hkeeps
      cases hkeeps
    · intro h
      refine ⟨fun w hw => ?_, fun hnone => absurd (hget.symm.trans hnone) nofun⟩
      obtain rfl : v = w := Option.some.inj (hget.symm.trans hw)
      rw [hafter, if_neg]
      rintro ⟨hnot, haccepted⟩
      rcases h.2 v rfl with hkeeps | hrefused
      · rw [hkeeps] at hnot
        cases hnot
      · rw [hrefused] at haccepted
        cases haccepted

/-- **The same where the default must not be due any more** once the value
is settled, which only one that is read can be. -/
theorem spares_start_iff {settled : Prop} (hread : settled → (D.get held).isSome) :
    (D.Provisions held (D.start accepted held) ∧ (settled → D.due held = false)) ↔
      (D.get held = none → accepted = true) ∧
        ∀ v, D.get held = some v → D.keeps v = true ∨ accepted = false ∧ ¬ settled := by
  rw [provisions_start_iff]
  constructor
  · rintro ⟨⟨hmissing, hspared⟩, hdue⟩
    refine ⟨hmissing, fun v hv => ?_⟩
    rcases hspared v hv with hkeeps | hrefused
    · exact Or.inl hkeeps
    · by_cases hs : settled
      · have hnot := hdue hs
        rw [due_of_get_eq_some hv, Bool.not_eq_false'] at hnot
        exact Or.inl hnot
      · exact Or.inr ⟨hrefused, hs⟩
  · rintro ⟨hmissing, hspared⟩
    refine ⟨⟨hmissing, fun v hv => (hspared v hv).imp_right And.left⟩, fun hs => ?_⟩
    obtain ⟨v, hv⟩ := Option.isSome_iff_exists.1 (hread hs)
    rw [due_of_get_eq_some hv, Bool.not_eq_false']
    exact (hspared v hv).resolve_right fun hc => hc.2 hs

end Defaulted
