import Mathlib.Data.List.Basic
/-!
# Bounded mailboxes

A first-in first-out queue that holds at most `cap` messages. `put?` does
not wait: on a full queue it answers `none` and the queue is as it was.
The bound is a field of the structure, so no operation has to be shown to
keep it.
-/

/-- **A queue of at most `cap` messages**, the oldest first. -/
structure Mailbox (α : Type*) (cap : ℕ) where
  items : List α
  bounded : items.length ≤ cap

namespace Mailbox

variable {α : Type*} {cap : ℕ} {q q' : Mailbox α cap} {a : α}

/-- The queue with nothing in it. -/
def empty : Mailbox α cap := ⟨[], Nat.zero_le cap⟩

/-- No room is left. -/
def Full (q : Mailbox α cap) : Prop := q.items.length = cap

instance : Decidable q.Full := inferInstanceAs (Decidable (_ = _))

/-- Put a message behind the others, if there is room. -/
def put? (q : Mailbox α cap) (a : α) : Option (Mailbox α cap) :=
  if h : q.items.length < cap then
    some ⟨q.items ++ [a], by rw [List.length_append]; exact h⟩
  else none

/-- Take the oldest message. -/
def get? (q : Mailbox α cap) : Option (α × Mailbox α cap) :=
  match h : q.items with
  | [] => none
  | a :: rest => some (a, ⟨rest, by
      have hb := q.bounded
      rw [h, List.length_cons] at hb
      omega⟩)

/-- A put is refused exactly by a full queue. -/
theorem put?_eq_none_iff : q.put? a = none ↔ q.Full := by
  have hb := q.bounded
  unfold put? Full
  split <;> simp <;> omega

/-- **A put that is not refused appends.** -/
theorem put?_eq_some (h : q.put? a = some q') : q'.items = q.items ++ [a] ∧ ¬ q.Full := by
  have hfull : ¬ q.Full := fun hf => by rw [put?_eq_none_iff.2 hf] at h; cases h
  unfold put? at h
  split at h
  · cases h
    exact ⟨rfl, hfull⟩
  · cases h

/-- Only the empty queue has nothing to take. -/
theorem get?_eq_none (h : q.get? = none) : q.items = [] := by
  unfold get? at h
  split at h
  · assumption
  · cases h

/-- **A get takes the head.** -/
theorem get?_eq_some (h : q.get? = some (a, q')) : q.items = a :: q'.items := by
  unfold get? at h
  split at h
  · cases h
  · rename_i b rest hq
    simp only [Option.some.injEq, Prod.mk.injEq] at h
    obtain ⟨rfl, rfl⟩ := h
    exact hq

end Mailbox
