import SoilSensor.Common.Machine
import Mathlib.Order.Monotone.Basic
/-!
# Fair runs

A run without an end is fair to some of the inputs if it does not pass them
over for ever: again and again one of them is taken, or none of them can be.
`Fair.eventually` is what such a run comes to: where these inputs lower a
rank that no other step raises, what is waited for happens. A run that ends
where an input changes nothing goes on without an end (`Run.endless`).
-/

namespace Machine

variable {σ α : Type*} {M : Machine σ α} {ss : ℕ → σ} {as : ℕ → α} {A : α → Prop}

/-- **Fair to the inputs of `A`**: again and again one of them is taken, or
none of them can be. -/
def Fair (M : Machine σ α) (ss : ℕ → σ) (as : ℕ → α) (A : α → Prop) : Prop :=
  ∀ n, ∃ m, n ≤ m ∧ (A (as m) ∨ ∀ a, A a → M.step (ss m) a = none)

/-- **What a fair run comes to.** `P k n` is that `Q` is waited for at time
`n`, with rank `k`. Where `P` holds, an input of `A` can be taken; no step
raises the rank, and a step of `A` lowers it, unless `Q` happens. -/
theorem Fair.eventually (hfair : M.Fair ss as A) {P : ℕ → ℕ → Prop} {Q : ℕ → Prop}
    (henabled : ∀ {k n}, P k n → ∃ a, A a ∧ (M.step (ss n) a).isSome)
    (hnext : ∀ {k n}, P k n → Q n ∨ ∃ j, j ≤ k ∧ P j (n + 1) ∧ (A (as n) → j < k))
    {k n : ℕ} (h : P k n) : ∃ m, n ≤ m ∧ Q m := by
  induction k using Nat.strongRecOn generalizing n with
  | ind k ih =>
    -- until the turn of `A` comes, the rank is kept
    have hwait : ∀ d, (∃ m, n ≤ m ∧ Q m) ∨ ∃ j, j ≤ k ∧ P j (n + d) := by
      intro d
      induction d with
      | zero => exact .inr ⟨k, Nat.le_refl k, h⟩
      | succ d hd =>
        rcases hd with hdone | ⟨j, hj, hP⟩
        · exact .inl hdone
        · rcases hnext hP with hQ | ⟨i, hi, hP', -⟩
          · exact .inl ⟨n + d, Nat.le_add_right n d, hQ⟩
          · exact .inr ⟨i, Nat.le_trans hi hj, hP'⟩
    obtain ⟨m, hm, hturn⟩ := hfair n
    obtain ⟨d, rfl⟩ := Nat.exists_eq_add_of_le hm
    rcases hwait d with hdone | ⟨j, hj, hP⟩
    · exact hdone
    · have htaken : A (as (n + d)) := by
        refine hturn.resolve_right fun hnone => ?_
        obtain ⟨a, ha, hsome⟩ := henabled hP
        rw [hnone a ha] at hsome
        cases hsome
      rcases hnext hP with hQ | ⟨i, -, hP', hlt⟩
      · exact ⟨n + d, hm, hQ⟩
      · obtain ⟨l, hl, hQ⟩ := ih i (Nat.lt_of_lt_of_le (hlt htaken) hj) hP'
        exact ⟨l, by omega, hQ⟩

/-- The same, where a single step of `A` is enough. -/
theorem Fair.soon (hfair : M.Fair ss as A) {P Q : ℕ → Prop}
    (henabled : ∀ {n}, P n → ∃ a, A a ∧ (M.step (ss n) a).isSome)
    (hnext : ∀ {n}, P n → Q n ∨ P (n + 1) ∧ ¬ A (as n)) {n : ℕ} (h : P n) :
    ∃ m, n ≤ m ∧ Q m := by
  refine hfair.eventually (P := fun _ n => P n) (k := 0) henabled (fun {k n} hP => ?_) h
  rcases hnext hP with hQ | ⟨hP', hA⟩
  · exact .inl hQ
  · exact .inr ⟨k, Nat.le_refl k, hP', fun hA' => absurd hA' hA⟩

/-- What makes the inputs of an endless run enabled holds along it. -/
theorem Endless.kept (h : M.Endless ss as) {I : ℕ → σ → Prop} (h0 : I 0 M.init)
    (hstep : ∀ n s, I n s → ∃ s', M.step s (as n) = some s' ∧ I (n + 1) s') (n : ℕ) :
    I n (ss n) := by
  induction n with
  | zero => exact h.zero ▸ h0
  | succ n ih =>
    obtain ⟨s', hs', hI⟩ := hstep n (ss n) ih
    obtain rfl := Option.some.inj ((h.step n).symm.trans hs')
    exact hI

/-- What never falls and rises again and again has no bound. -/
theorem exists_le_of_rises {f : ℕ → ℕ} (hmono : ∀ n, f n ≤ f (n + 1))
    (hrise : ∀ n, ∃ m, n ≤ m ∧ f m < f (m + 1)) (k : ℕ) : ∃ n, k ≤ f n := by
  induction k with
  | zero => exact ⟨0, Nat.zero_le _⟩
  | succ k ih =>
    obtain ⟨n, hn⟩ := ih
    obtain ⟨m, hm, hlt⟩ := hrise n
    have hle : f n ≤ f m := monotone_nat_of_le_succ hmono hm
    exact ⟨m + 1, by omega⟩

/-- The steps of a run, by their numbers, and `a` ever after. -/
theorem Run.numbered {tr : List (Transition σ α)} {s : σ} (r : M.Run tr s) (a : α) :
    ∃ (ss : ℕ → σ) (as : ℕ → α), ss 0 = M.init ∧
      (∀ n, tr.length ≤ n → ss n = s ∧ as n = a) ∧
      (∀ n, n < tr.length → M.step (ss n) (as n) = some (ss (n + 1))) ∧
      tr = (List.range tr.length).map fun k => ⟨ss k, as k, ss (k + 1)⟩ := by
  induction r with
  | init =>
    exact ⟨fun _ => M.init, fun _ => a, rfl, fun n _ => ⟨rfl, rfl⟩,
      fun n hn => absurd hn (Nat.not_lt_zero n), rfl⟩
  | @snoc tr s s' b r hstep ih =>
    obtain ⟨ss, as, hzero, hrest, hsteps, htr⟩ := ih
    -- the new input comes first of those after the old ones, and the new state after it
    let ss' : ℕ → σ := fun n => if n ≤ tr.length then ss n else s'
    let as' : ℕ → α := fun n => if n = tr.length then b else as n
    have hlen : (tr ++ [(⟨s, b, s'⟩ : Transition σ α)]).length = tr.length + 1 :=
      List.length_append
    have hold : ∀ n, n < tr.length → ss' n = ss n ∧ as' n = as n ∧ ss' (n + 1) = ss (n + 1) :=
      fun n hn => ⟨if_pos (by omega), if_neg (by omega), if_pos (by omega)⟩
    have hlast : ss' tr.length = s ∧ as' tr.length = b ∧ ss' (tr.length + 1) = s' :=
      ⟨(if_pos (Nat.le_refl _)).trans (hrest _ (Nat.le_refl _)).1, if_pos rfl, if_neg (by omega)⟩
    refine ⟨ss', as', (if_pos (Nat.zero_le _)).trans hzero, fun n hn => ?_, fun n hn => ?_, ?_⟩
    · rw [hlen] at hn
      have hafter := (hrest n (by omega)).2
      exact ⟨if_neg (by omega), (if_neg (by omega)).trans hafter⟩
    · rw [hlen] at hn
      rcases Nat.lt_or_ge n tr.length with hlt | hge
      · obtain ⟨hsrc, hact, hdst⟩ := hold n hlt
        rw [hsrc, hact, hdst]
        exact hsteps n hlt
      · obtain rfl : n = tr.length := by omega
        obtain ⟨hsrc, hact, hdst⟩ := hlast
        rw [hsrc, hact, hdst]
        exact hstep
    · have hmap : ((List.range tr.length).map fun k =>
          (⟨ss' k, as' k, ss' (k + 1)⟩ : Transition σ α)) = tr := by
        refine (List.map_congr_left fun k hk => ?_).trans htr.symm
        obtain ⟨hsrc, hact, hdst⟩ := hold k (List.mem_range.1 hk)
        rw [hsrc, hact, hdst]
      obtain ⟨hsrc, hact, hdst⟩ := hlast
      rw [hlen, List.range_succ, List.map_append, hmap, List.map_singleton, hsrc, hact, hdst]

/-- **A run that comes to rest goes on without an end**, by the input that
changes nothing. -/
theorem Run.endless {tr : List (Transition σ α)} {s : σ} (r : M.Run tr s) {a : α}
    (hstay : M.step s a = some s) : ∃ ss as, M.Endless ss as ∧
      (∀ n, tr.length ≤ n → ss n = s ∧ as n = a) ∧
      tr = (List.range tr.length).map fun k => ⟨ss k, as k, ss (k + 1)⟩ := by
  obtain ⟨ss, as, hzero, hrest, hsteps, htr⟩ := r.numbered a
  refine ⟨ss, as, ⟨hzero, fun n => ?_⟩, hrest, htr⟩
  rcases Nat.lt_or_ge n tr.length with hlt | hge
  · exact hsteps n hlt
  · obtain ⟨hs, ha⟩ := hrest n hge
    rw [hs, ha, (hrest (n + 1) (Nat.le_succ_of_le hge)).1]
    exact hstay

end Machine
