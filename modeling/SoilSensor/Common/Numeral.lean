import Mathlib.Data.Nat.Digits.Lemmas
/-!
# Numerals

Numbers printed to some base with some characters, filled up on the left
with zeros to a least width, and read back. What is printed reads as the
number (`parse_print`), and is no longer than the width where the number
fits into it (`length_print`).
-/

/-- **A way to write digits**, which can be told apart. -/
structure Numeral where
  base : ℕ
  one_lt_base : 1 < base
  char : ℕ → Char
  value : Char → Option ℕ
  value_char : ∀ d < base, value (char d) = some d

namespace Numeral

variable {N : Numeral} {n m width : ℕ} {ds : List ℕ}

/-- The digits of a number, the lowest first. Zero has one. -/
def digits (N : Numeral) (n : ℕ) : List ℕ := if n = 0 then [0] else N.base.digits n

/-- **Print a number**, with leading zeros. -/
def print (N : Numeral) (width n : ℕ) : List Char :=
  (((N.digits n).map N.char).reverse).leftpad width (N.char 0)

/-- **Read a number.** -/
def parse (N : Numeral) (text : List Char) : Option ℕ :=
  text.foldlM (fun n c => (N.value c).map fun d => n * N.base + d) 0

/-! ## Digits -/

theorem digits_lt : ∀ d ∈ N.digits n, d < N.base := by
  intro d hd
  rw [digits] at hd
  split_ifs at hd
  · rw [List.mem_singleton.1 hd]
    have := N.one_lt_base
    omega
  · exact Nat.digits_lt_base N.one_lt_base hd

theorem ofDigits_digits : Nat.ofDigits N.base (N.digits n) = n := by
  rw [digits]
  split_ifs with hzero
  · rw [hzero, Nat.ofDigits_singleton]
  · exact Nat.ofDigits_digits _ _

theorem length_digits_le {k : ℕ} (hk : 0 < k) (hlt : n < N.base ^ k) :
    (N.digits n).length ≤ k := by
  rw [digits]
  split_ifs
  · exact hk
  · exact (Nat.digits_length_le_iff N.one_lt_base n).2 hlt

/-! ## Texts -/

/-- Leading zeros are digits like others. -/
theorem print_eq : N.print width n =
    ((N.digits n ++ List.replicate (width - (N.digits n).length) 0).map N.char).reverse := by
  rw [print, List.leftpad, List.map_append, List.reverse_append, List.map_replicate,
    List.reverse_replicate, List.length_reverse, List.length_map]

/-- Digits read as the number they are. -/
theorem parse_reverse (hlt : ∀ d ∈ ds, d < N.base) :
    N.parse (ds.map N.char).reverse = some (Nat.ofDigits N.base ds) := by
  induction ds with
  | nil => rfl
  | cons d ds ih =>
    obtain ⟨hd, hds⟩ := List.forall_mem_cons.1 hlt
    have hrest := ih hds
    rw [parse] at hrest
    rw [parse, List.map_cons, List.reverse_cons, List.foldlM_append, hrest, Nat.ofDigits_cons]
    simp [N.value_char d hd, Nat.add_comm, Nat.mul_comm]

/-- **What is printed reads back.** -/
theorem parse_print : N.parse (N.print width n) = some n := by
  rw [print_eq, parse_reverse, Nat.ofDigits_append_replicate_zero, ofDigits_digits]
  intro d hd
  rcases List.mem_append.1 hd with hd | hd
  · exact digits_lt d hd
  · rw [List.eq_of_mem_replicate hd]
    have := N.one_lt_base
    omega

/-- Numbers printed alike are the same. -/
theorem print_injective (h : N.print width n = N.print width m) : n = m := by
  have hparse := congrArg N.parse h
  rw [parse_print, parse_print] at hparse
  exact Option.some.inj hparse

theorem length_print : (N.print width n).length = max width (N.digits n).length := by
  rw [print, List.length_leftpad, List.length_reverse, List.length_map]

end Numeral
