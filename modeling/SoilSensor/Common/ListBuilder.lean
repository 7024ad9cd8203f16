import Mathlib.Data.List.Basic
/-!
# Builders of lists

A list is built in a buffer that somebody else allocates: room for a number
of entries is reserved, which may be refused, the entries are appended one
by one, and the buffer is taken out as a whole. `ListBuilder` is what a
program may rely on, `HeapBuffer` a buffer that behaves so.

Reserving room for a list and appending the entries to keep gives their
filter (`appendWhere_of_room`).
-/

/-- **A builder of lists.** The operations return an error, `ok` if there is
none; a buffer without storage is taken as `none`. -/
structure ListBuilder (β α : Type*) {ε : Type*} (ok : ε) where
  content : β → List α
  take : β → Option (List α) × β
  reserve : ℕ → β → ε × β
  append : α → β → ε × β
  /-- So many entries can be appended. -/
  room : ℕ → β → Prop
  take_content : ∀ b, (take b).1.getD [] = content b
  content_take : ∀ b, content (take b).2 = []
  content_reserve : ∀ n b, content (reserve n b).2 = content b
  room_reserve : ∀ n b, (reserve n b).1 = ok → room n (reserve n b).2
  append_of_room : ∀ n a b, room (n + 1) b → (append a b).1 = ok ∧
    content (append a b).2 = content b ++ [a] ∧ room n (append a b).2

namespace ListBuilder

variable {β α ε : Type*} {ok : ε} {B : ListBuilder β α ok} {b : β}

/-- What is taken is all there was. -/
theorem take_eq_some {entries : List α} (h : (B.take b).1 = some entries) :
    entries = B.content b := by
  have hall := B.take_content b
  rw [h] at hall
  exact hall

/-- And a buffer without storage holds nothing. -/
theorem content_of_take_eq_none (h : (B.take b).1 = none) : B.content b = [] := by
  have hall := B.take_content b
  rw [h] at hall
  exact hall.symm

variable [DecidableEq ε]

/-- Append the entries to keep, up to the first error. -/
def appendWhere (B : ListBuilder β α ok) (keep : α → Bool) : List α → β → ε × β
  | [], b => (ok, b)
  | a :: entries, b =>
    if keep a then
      if (B.append a b).1 = ok then appendWhere B keep entries (B.append a b).2 else B.append a b
    else appendWhere B keep entries b

/-- **With room for the entries that are kept, none is refused**, and they
are appended in their order. -/
theorem appendWhere_of_room {keep : α → Bool} {entries : List α} {n : ℕ} (hroom : B.room n b)
    (hn : entries.length ≤ n) : (B.appendWhere keep entries b).1 = ok ∧
      B.content (B.appendWhere keep entries b).2 = B.content b ++ entries.filter keep := by
  induction entries generalizing n b with
  | nil => exact ⟨rfl, (List.append_nil _).symm⟩
  | cons a entries ih =>
    rw [List.length_cons] at hn
    by_cases ha : keep a
    · obtain ⟨m, rfl⟩ : ∃ m, n = m + 1 := ⟨n - 1, by omega⟩
      obtain ⟨hok, hcontent, hleft⟩ := B.append_of_room m a b hroom
      obtain ⟨hall, heq⟩ := ih hleft (by omega)
      rw [appendWhere, if_pos ha, if_pos hok, List.filter_cons_of_pos ha]
      refine ⟨hall, ?_⟩
      rw [heq, hcontent, List.append_assoc, List.singleton_append]
    · rw [appendWhere, if_neg ha, List.filter_cons_of_neg ha]
      exact ih hroom (by omega)

end ListBuilder

/-- **A buffer on a heap** with so many cells left. -/
structure HeapBuffer (α : Type*) where
  entries : List α
  capacity : ℕ
  bounded : entries.length ≤ capacity
  free : ℕ

namespace HeapBuffer

variable {α ε : Type*}

/-- No storage yet. -/
def empty (free : ℕ) : HeapBuffer α := ⟨[], 0, Nat.le_refl 0, free⟩

/-- The buffer in storage for `n` entries. -/
def grow (n : ℕ) (b : HeapBuffer α) (h : b.entries.length ≤ n) : HeapBuffer α :=
  ⟨b.entries, n, h, b.free - n⟩

/-- Take the storage. -/
def take (b : HeapBuffer α) : Option (List α) × HeapBuffer α :=
  (if b.capacity = 0 then none else some b.entries, empty b.free)

/-- Room for `n` more entries, if the heap has it. -/
def reserve (ok noMemory : ε) (n : ℕ) (b : HeapBuffer α) : ε × HeapBuffer α :=
  if b.entries.length + n ≤ b.capacity then (ok, b)
  else if b.entries.length + n ≤ b.free then
    (ok, b.grow (b.entries.length + n) (Nat.le_add_right _ _))
  else (noMemory, b)

/-- One more entry, if there is room. -/
def append (ok tooSmall : ε) (a : α) (b : HeapBuffer α) : ε × HeapBuffer α :=
  if h : b.entries.length < b.capacity then
    (ok, ⟨b.entries ++ [a], b.capacity, by rwa [List.length_append], b.free⟩)
  else (tooSmall, b)

/-- **It is a builder**, if a refusal is an error. -/
def builder (ok noMemory tooSmall : ε) (h : noMemory ≠ ok) :
    ListBuilder (HeapBuffer α) α ok where
  content b := b.entries
  take := take
  reserve := reserve ok noMemory
  append := append ok tooSmall
  room n b := b.entries.length + n ≤ b.capacity
  take_content b := by
    unfold take
    split_ifs with hnull
    · have hlen : b.entries.length = 0 := by have := b.bounded; omega
      exact (List.eq_nil_of_length_eq_zero hlen).symm
    · rfl
  content_take _ := rfl
  content_reserve n b := by
    unfold reserve
    split_ifs <;> rfl
  room_reserve n b hok := by
    unfold reserve at hok ⊢
    split_ifs at hok ⊢ with hcap hfree
    · exact hcap
    · exact Nat.le_refl _
    · exact absurd hok h
  append_of_room n a b hroom := by
    have hlt : b.entries.length < b.capacity := by omega
    rw [append, dif_pos hlt]
    refine ⟨rfl, rfl, ?_⟩
    change (b.entries ++ [a]).length + n ≤ b.capacity
    rw [List.length_append, List.length_singleton]
    omega

end HeapBuffer
