import SoilSensor.Common.Machine
import Mathlib.Data.List.Induction
/-!
# Accounts kept along a run

Ways of settling at the end of a run what its steps took and gave. A
potential that a step raises by no more than it pays for, less what it
spends, has been paid for at every moment (`Run.weighed`, `Run.paid`). A
store whose content behind a step is what it was, with what came in behind
it and what went out taken off its front, has given out what came in and in
that order, and still holds the rest (`Run.conserved`). And what a step
makes of a state and of a record kept beside it holds at the end of the
state and the record of all the inputs (`Run.recorded`).
-/

namespace Machine

variable {σ α β : Type*} {M : Machine σ α} {tr : List (Transition σ α)} {s : σ}

/-- What the steps of a trace come to. -/
def tally (f : σ → α → ℕ) (tr : List (Transition σ α)) : ℕ :=
  tr.foldl (fun n t => n + f t.src t.act) 0

@[simp] theorem tally_snoc {f : σ → α → ℕ} {t : Transition σ α} :
    tally f (tr ++ [t]) = tally f tr + f t.src t.act := by
  simp [tally]

/-- A tally that counts, each time for as much. -/
theorem tally_toNat {n : ℕ} {p : σ → α → Bool} :
    tally (fun s a => n * (p s a).toNat) tr = n * tr.countP fun t => p t.src t.act := by
  induction tr using List.reverseRecOn with
  | nil => rfl
  | append_singleton tr t ih =>
    rw [tally_snoc, ih, List.countP_append, Nat.mul_add]
    cases hp : p t.src t.act <;> simp [hp]

/-- **A potential is spent as it is paid for.** Where what a step spends
and leaves of `V` is covered by what there was of it and what it pays, so
it is over a run whose steps the guard admits. -/
theorem Run.weighed {V : σ → ℕ} {c p : σ → α → ℕ} {G : σ → α → Prop}
    (hstep : ∀ {s a s'}, G s a → M.step s a = some s' → V s' + c s a ≤ V s + p s a)
    (r : M.Run tr s) (hG : ∀ t ∈ tr, G t.src t.act) :
    V s + tally c tr ≤ V M.init + tally p tr := by
  induction r with
  | init => exact Nat.le_refl _
  | @snoc tr s s' a r h ih =>
    obtain ⟨hall, hlast⟩ := List.forall_mem_append.1 hG
    have hone : V s' + c s a ≤ V s + p s a := hstep (hlast _ (List.mem_singleton_self _)) h
    have hrest := ih hall
    rw [tally_snoc, tally_snoc]
    dsimp only
    omega

/-- **The same by units**, each spent by one step or paid by one. -/
theorem Run.spent {V : σ → ℕ} {c p : σ → α → Bool}
    (hstep : ∀ {s a s'}, M.step s a = some s' → V s' + (c s a).toNat ≤ V s + (p s a).toNat)
    (r : M.Run tr s) : V s + tr.countP (fun t => c t.src t.act) ≤
      V M.init + tr.countP fun t => p t.src t.act := by
  have h := r.weighed (V := V) (c := fun s a => 1 * (c s a).toNat)
    (p := fun s a => 1 * (p s a).toNat) (G := fun _ _ => True)
    (fun _ hs => by
      have := hstep hs
      omega)
    fun _ _ => trivial
  rw [tally_toNat, tally_toNat, Nat.one_mul, Nat.one_mul] at h
  exact h

/-- **A potential is paid for.** Where a step raises `V` by at most one,
and by one only if it pays, the payments of a run cover what `V` has
become. -/
theorem Run.paid {V : σ → ℕ} {p : σ → α → Bool}
    (hstep : ∀ {s a s'}, M.step s a = some s' → V s' ≤ V s + (p s a).toNat)
    (r : M.Run tr s) : V s ≤ V M.init + tr.countP fun t => p t.src t.act := by
  have h := r.spent (c := fun _ _ => false) fun hs => hstep hs
  have hnone : (tr.countP fun _ => false) = 0 := by simp
  omega

/-- What the steps of a trace let through, one after another. -/
def through (f : σ → α → List β) (tr : List (Transition σ α)) : List β :=
  tr.flatMap fun t => f t.src t.act

@[simp] theorem through_snoc {f : σ → α → List β} {t : Transition σ α} :
    through f (tr ++ [t]) = through f tr ++ f t.src t.act := by
  simp [through]

/-- **A queue gives out what came in, in its order**, and holds the rest. -/
theorem Run.conserved {c : σ → List β} {ins outs : σ → α → List β}
    (hstep : ∀ {s a s'}, M.step s a = some s' → c s ++ ins s a = outs s a ++ c s')
    (r : M.Run tr s) : c M.init ++ through ins tr = through outs tr ++ c s := by
  induction r with
  | init => simp [through]
  | snoc _ h ih =>
    rw [through_snoc, through_snoc, ← List.append_assoc, ih, List.append_assoc, hstep h,
      List.append_assoc]

/-- **A log holds what the steps of a run added to it**, in states of the
invariant. -/
theorem Run.logged {I : σ → Prop} {l : σ → List β} {f : σ → α → List β} (h0 : I M.init)
    (hI : ∀ {s a s'}, I s → M.step s a = some s' → I s')
    (hstep : ∀ {s a s'}, I s → M.step s a = some s' → l s' = l s ++ f s a)
    (r : M.Run tr s) : l s = l M.init ++ through f tr := by
  induction r with
  | init => simp [through]
  | snoc r h ih =>
    rw [through_snoc, ← List.append_assoc, ← ih]
    exact hstep (r.invariant h0 hI) h

/-- **A counter has counted**: it stands at the number of things the steps
let through, if each step adds those it lets through. -/
theorem Run.counted {count : σ → ℕ} {outs : σ → α → List β} (h0 : count M.init = 0)
    (hstep : ∀ {s a s'}, M.step s a = some s' → count s' = count s + (outs s a).length)
    (r : M.Run tr s) : count s = (through outs tr).length := by
  induction r with
  | init => exact h0
  | snoc _ h ih => rw [through_snoc, List.length_append, hstep h, ih]

/-- What the inputs of a trace make of a record. -/
def record {ι : Type*} (f : ι → α → ι) (i : ι) (tr : List (Transition σ α)) : ι :=
  tr.foldl (fun i t => f i t.act) i

@[simp] theorem record_snoc {ι : Type*} {f : ι → α → ι} {i : ι} {t : Transition σ α} :
    record f i (tr ++ [t]) = f (record f i tr) t.act := by
  simp [record]

/-- A record that counts. -/
theorem record_countP {p : α → Bool} {n : ℕ} :
    record (fun n a => n + (p a).toNat) n tr = n + tr.countP fun t => p t.act := by
  induction tr generalizing n with
  | nil => rfl
  | cons t tr ih =>
    have hrest : record (fun n a => n + (p a).toNat) n (t :: tr) =
        record (fun n a => n + (p a).toNat) (n + (p t.act).toNat) tr := rfl
    rw [hrest, ih, List.countP_cons]
    cases p t.act with
    | false => simp
    | true =>
      simp
      omega

/-- **A state agrees with the record of its run**, if it did at the start
and every step the guard admits keeps the two in agreement. -/
theorem Run.recorded {ι : Type*} {P : σ → ι → Prop} {G : σ → α → Prop} {f : ι → α → ι} {i : ι}
    (h0 : P M.init i)
    (hstep : ∀ {s a s' i}, P s i → G s a → M.step s a = some s' → P s' (f i a))
    (r : M.Run tr s) (hG : ∀ t ∈ tr, G t.src t.act) : P s (record f i tr) := by
  induction r with
  | init => exact h0
  | snoc _ h ih =>
    obtain ⟨hall, hlast⟩ := List.forall_mem_append.1 hG
    rw [record_snoc]
    exact hstep (ih hall) (hlast _ (List.mem_singleton_self _)) h

end Machine
