import Mathlib.Data.List.Basic
/-!
# Numbered queues

A first-in first-out queue that numbers what is put into it, so that it
can be said of one item, and not only of one like it, that it was taken.
No two items are given one number: the next is above all that were given,
which the structure carries for those still waiting.
-/

/-- **A queue of numbered items**, the oldest first. -/
structure TicketQueue (α : Type*) where
  entries : List (ℕ × α)
  next : ℕ
  below : ∀ e ∈ entries, e.1 < next

namespace TicketQueue

variable {α : Type*} {q : TicketQueue α} {a : α}

/-- The queue with nothing in it. -/
def empty : TicketQueue α := ⟨[], 0, nofun⟩

/-- Put an item behind the others, under the next number. -/
def put (q : TicketQueue α) (a : α) : TicketQueue α where
  entries := q.entries ++ [(q.next, a)]
  next := q.next + 1
  below := by
    intro e he
    rcases List.mem_append.1 he with he | he
    · exact Nat.lt_succ_of_lt (q.below e he)
    · rw [List.mem_singleton.1 he]
      exact Nat.lt_succ_self _

/-- Put several, in order. -/
def putAll (q : TicketQueue α) (as : List α) : TicketQueue α := as.foldl put q

/-- Take the oldest item. -/
def get? (q : TicketQueue α) : Option ((ℕ × α) × TicketQueue α) :=
  match h : q.entries with
  | [] => none
  | e :: rest => some (e, ⟨rest, q.next, fun x hx => q.below x (by
      rw [h]
      exact List.mem_cons_of_mem _ hx)⟩)

/-- Puts keep the order. -/
theorem map_putAll {as : List α} :
    (q.putAll as).entries.map Prod.snd = q.entries.map Prod.snd ++ as := by
  induction as generalizing q with
  | nil => exact (List.append_nil _).symm
  | cons a as ih =>
    have hput : (q.put a).entries.map Prod.snd = q.entries.map Prod.snd ++ [a] := by
      simp [put]
    have hrest := ih (q := q.put a)
    rw [hput, List.append_assoc] at hrest
    exact hrest

/-- What was put into the empty queue is what it holds. -/
theorem items_putAll {as : List α} : (empty.putAll as).entries.map Prod.snd = as := by
  rw [map_putAll]
  rfl

theorem next_le_putAll {as : List α} : q.next ≤ (q.putAll as).next := by
  induction as generalizing q with
  | nil => exact Nat.le_refl _
  | cons a as ih => exact Nat.le_trans (Nat.le_succ _) (ih (q := q.put a))

/-- Only the empty queue has nothing to take. -/
theorem get?_eq_none (h : q.get? = none) : q.entries = [] := by
  unfold get? at h
  split at h
  · assumption
  · cases h

/-- **A get takes the head**, whose number was given before. -/
theorem get?_eq_some {q' : TicketQueue α} {e : ℕ × α} (h : q.get? = some (e, q')) :
    q.entries = e :: q'.entries ∧ q'.next = q.next ∧ e.1 < q.next := by
  unfold get? at h
  split at h
  · cases h
  · rename_i b rest hq
    simp only [Option.some.injEq, Prod.mk.injEq] at h
    obtain ⟨rfl, rfl⟩ := h
    exact ⟨hq, rfl, q.below _ (by rw [hq]; exact List.mem_cons_self)⟩

end TicketQueue
