import Mathlib.Data.List.Basic
import Mathlib.Data.List.Forall2
/-!
# Registries of handlers

Handlers are kept in a list, the last registered first, and a key is
answered by the first that handles it. A handler that overlaps one already
registered is refused, so that a key is never handled twice.
-/

/-- **How handlers are told apart**: which keys one handles, and which two
overlap. Handlers of one key do. -/
structure Matching (ι κ : Type*) where
  handles : ι → κ → Bool
  overlaps : ι → ι → Bool
  overlaps_of_handles : ∀ {i j k}, handles i k → handles j k → overlaps i j

namespace Matching

variable {ι κ : Type*} {M : Matching ι κ} {r r' : List ι} {i : ι} {k : κ}

/-- Register a handler, if none that is registered overlaps it. -/
def register (M : Matching ι κ) (i : ι) (r : List ι) : Option (List ι) :=
  if r.any fun j => M.overlaps j i then none else some (i :: r)

/-- The handler a key is answered by. -/
def get (M : Matching ι κ) (k : κ) (r : List ι) : Option ι := r.find? fun j => M.handles j k

/-- A registration is refused exactly by an overlap. -/
theorem register_eq_none_iff : M.register i r = none ↔ ∃ j ∈ r, M.overlaps j i := by
  unfold register
  split_ifs with h
  · exact iff_of_true rfl (List.any_eq_true.1 h)
  · exact iff_of_false nofun fun hc => h (List.any_eq_true.2 hc)

/-- One that is not puts the handler in front. -/
theorem register_eq_some (h : M.register i r = some r') :
    r' = i :: r ∧ ∀ j ∈ r, ¬ M.overlaps j i := by
  have hnone : ¬ ∃ j ∈ r, M.overlaps j i := fun hc => by
    rw [register_eq_none_iff.2 hc] at h
    cases h
  refine ⟨?_, fun j hj ho => hnone ⟨j, hj, ho⟩⟩
  unfold register at h
  split_ifs at h
  exact (Option.some.inj h).symm

/-- **A registered handler answers its keys.** -/
theorem get_cons_of_handles (hk : M.handles i k) : M.get k (i :: r) = some i :=
  List.find?_cons_of_pos hk

/-- **And leaves the others.** -/
theorem get_cons_of_not_handles (hk : ¬ M.handles i k) : M.get k (i :: r) = M.get k r :=
  List.find?_cons_of_neg hk

/-- **Nobody answered its keys before.** -/
theorem get_eq_none_of_register (h : M.register i r = some r') (hk : M.handles i k) :
    M.get k r = none := by
  obtain ⟨-, hno⟩ := register_eq_some h
  exact List.find?_eq_none.2 fun j hj hjk => hno j hj (M.overlaps_of_handles hjk hk)

/-! ## Registrations in turn -/

variable {is is' : List ι} {j : ι}

/-- Nobody that is registered stands in its way. -/
def Free (M : Matching ι κ) (i : ι) (r : List ι) : Prop := ∀ j ∈ r, ¬ M.overlaps j i

/-- Register one handler after another, whatever becomes of each. -/
def registerEach (M : Matching ι κ) (is r : List ι) : List ι :=
  is.foldl (fun r i => (M.register i r).getD r) r

/-- A handler that is refused changes nothing. -/
theorem getD_register_of_not_free (h : ¬ M.Free i r) : (M.register i r).getD r = r := by
  have hnone : M.register i r = none := by
    refine register_eq_none_iff.2 ?_
    simpa [Free] using h
  rw [hnone]
  rfl

/-- One that is free is put in front. -/
theorem getD_register_of_free (h : M.Free i r) : (M.register i r).getD r = i :: r := by
  have hany : ¬ r.any fun j => M.overlaps j i := fun hc => by
    obtain ⟨j, hj, ho⟩ := List.any_eq_true.1 hc
    exact h j hj ho
  rw [register, if_neg hany]
  rfl

theorem free_cons : M.Free j (i :: r) ↔ ¬ M.overlaps i j ∧ M.Free j r := List.forall_mem_cons

/-- **No two of the handlers are in each other's way.** -/
def Apart (M : Matching ι κ) (is : List ι) : Prop :=
  ∀ i ∈ is, ∀ j ∈ is, M.overlaps i j → i = j

theorem Apart.tail (h : M.Apart (i :: is)) : M.Apart is :=
  fun j hj k hk => h j (List.mem_cons_of_mem _ hj) k (List.mem_cons_of_mem _ hk)

/-- **In the end, what was free at the start is registered**, whatever the
order and however often each was tried. -/
theorem mem_registerEach (h : M.Apart is) :
    j ∈ M.registerEach is r ↔ j ∈ r ∨ j ∈ is ∧ M.Free j r := by
  induction is generalizing r with
  | nil => simp [registerEach]
  | cons i is ih =>
    have hcons : M.registerEach (i :: is) r = M.registerEach is ((M.register i r).getD r) := rfl
    rw [hcons, ih h.tail]
    by_cases hi : M.Free i r
    · rw [getD_register_of_free hi, free_cons, List.mem_cons, List.mem_cons]
      constructor
      · rintro ((rfl | hj) | ⟨hj, -, hfree⟩)
        · exact .inr ⟨.inl rfl, hi⟩
        · exact .inl hj
        · exact .inr ⟨.inr hj, hfree⟩
      · rintro (hj | ⟨rfl | hj, hfree⟩)
        · exact .inl (.inr hj)
        · exact .inl (.inl rfl)
        · by_cases ho : M.overlaps i j
          · exact .inl (.inl (h i List.mem_cons_self j (List.mem_cons_of_mem _ hj) ho).symm)
          · exact .inr ⟨hj, ho, hfree⟩
    · rw [getD_register_of_not_free hi, List.mem_cons]
      constructor
      · rintro (hj | ⟨hj, hfree⟩)
        · exact .inl hj
        · exact .inr ⟨.inr hj, hfree⟩
      · rintro (hj | ⟨rfl | hj, hfree⟩)
        · exact .inl hj
        · exact absurd hfree hi
        · exact .inr ⟨hj, hfree⟩

/-- A key is answered as before by what was not in the way of anything that
handles it. -/
theorem get_registerEach_of_forall (hk : ∀ i ∈ is, M.Free i r → ¬ M.handles i k) :
    M.get k (M.registerEach is r) = M.get k r := by
  induction is generalizing r with
  | nil => rfl
  | cons i is ih =>
    have hcons : M.registerEach (i :: is) r = M.registerEach is ((M.register i r).getD r) := rfl
    have hrest : ∀ j ∈ is, M.Free j r → ¬ M.handles j k :=
      fun j hj => hk j (List.mem_cons_of_mem _ hj)
    rw [hcons]
    by_cases hi : M.Free i r
    · rw [getD_register_of_free hi, ih fun j hj hfree => hrest j hj (free_cons.1 hfree).2,
        get_cons_of_not_handles (hk i List.mem_cons_self hi)]
    · rw [getD_register_of_not_free hi, ih hrest]

/-- Who answers a key goes on answering it. -/
theorem get_registerEach_of_get (hget : M.get k r = some j) :
    M.get k (M.registerEach is r) = some j := by
  refine (get_registerEach_of_forall fun i _ hfree hi => ?_).trans hget
  have hj : M.handles j k := List.find?_some (p := fun j => M.handles j k) hget
  exact hfree j (List.mem_of_find?_eq_some hget) (M.overlaps_of_handles hj hi)

/-- **Who was free at the start answers its keys.** -/
theorem get_registerEach_of_free (h : M.Apart is) (hi : i ∈ is) (hfree : M.Free i r)
    (hk : M.handles i k) : M.get k (M.registerEach is r) = some i := by
  induction is generalizing r with
  | nil => cases hi
  | cons j is ih =>
    have hcons : M.registerEach (j :: is) r = M.registerEach is ((M.register j r).getD r) := rfl
    rw [hcons]
    rcases List.mem_cons.1 hi with rfl | hmem
    · rw [getD_register_of_free hfree]
      exact get_registerEach_of_get (get_cons_of_handles hk)
    · by_cases hj : M.Free j r
      · rw [getD_register_of_free hj]
        by_cases ho : M.overlaps j i
        · obtain rfl := h j List.mem_cons_self i hi ho
          exact get_registerEach_of_get (get_cons_of_handles hk)
        · exact ih h.tail hmem (free_cons.2 ⟨ho, hfree⟩)
      · rw [getD_register_of_not_free hj]
        exact ih h.tail hmem hfree

/-- **Order and repetition do not matter**: what answers a key is decided
by which handlers were tried. -/
theorem get_registerEach_congr (h : M.Apart is) (hsame : ∀ i, i ∈ is ↔ i ∈ is') :
    M.get k (M.registerEach is r) = M.get k (M.registerEach is' r) := by
  have h' : M.Apart is' := fun i hi j hj => h i ((hsame i).2 hi) j ((hsame j).2 hj)
  by_cases hex : ∃ i ∈ is, M.Free i r ∧ M.handles i k
  · obtain ⟨i, hi, hfree, hk⟩ := hex
    rw [get_registerEach_of_free h hi hfree hk,
      get_registerEach_of_free h' ((hsame i).1 hi) hfree hk]
  · have hnone : ∀ i ∈ is, M.Free i r → ¬ M.handles i k :=
      fun i hi hfree hk => hex ⟨i, hi, hfree, hk⟩
    rw [get_registerEach_of_forall hnone,
      get_registerEach_of_forall fun i hi => hnone i ((hsame i).2 hi)]

/-! ## Handlers in the place of others -/

variable {R : ι → ι → Prop} {i' : ι}

/-- **A registry does not tell related handlers apart**: they handle the
same keys, and the same is in their way. -/
structure Respects (M : Matching ι κ) (R : ι → ι → Prop) : Prop where
  handles : ∀ {i i' k}, R i i' → M.handles i k = M.handles i' k
  overlaps : ∀ {i i' j j'}, R i i' → R j j' → M.overlaps i j = M.overlaps i' j'

theorem Respects.free_iff (hR : M.Respects R) (hi : R i i') (h : List.Forall₂ R r r') :
    M.Free i r ↔ M.Free i' r' := by
  induction h with
  | nil => simp [Free]
  | cons hj _ ih => rw [free_cons, free_cons, hR.overlaps hj hi, ih]

/-- **Related handlers leave related registries.** -/
theorem Respects.registerEach (hR : M.Respects R) (his : List.Forall₂ R is is')
    (h : List.Forall₂ R r r') : List.Forall₂ R (M.registerEach is r) (M.registerEach is' r') := by
  refine List.rel_foldl (P := List.Forall₂ R) (fun r r' h i i' hi => ?_) h his
  by_cases hfree : M.Free i r
  · rw [getD_register_of_free hfree, getD_register_of_free ((hR.free_iff hi h).1 hfree)]
    exact .cons hi h
  · have hfree' : ¬ M.Free i' r' := fun hc => hfree ((hR.free_iff hi h).2 hc)
    rw [getD_register_of_not_free hfree, getD_register_of_not_free hfree']
    exact h

/-- A key is answered by related handlers, or by none. -/
theorem Respects.get (hR : M.Respects R) (h : List.Forall₂ R r r') :
    Option.Rel R (M.get k r) (M.get k r') := by
  induction h with
  | nil => exact .none
  | @cons i i' r r' hi _ ih =>
    have hkeys : M.handles i k = M.handles i' k := hR.handles hi
    by_cases hk : M.handles i k
    · rw [get_cons_of_handles hk, get_cons_of_handles (hkeys ▸ hk)]
      exact .some hi
    · rw [get_cons_of_not_handles hk, get_cons_of_not_handles (hkeys ▸ hk)]
      exact ih

end Matching
