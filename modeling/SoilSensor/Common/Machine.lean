import Mathlib.Data.List.Basic
import Mathlib.Logic.Basic
import Mathlib.Order.Basic
/-!
# Machines, and what holds along their runs

A machine is a partial step function with an initial state. A run is
carried with its trace, one `Transition` a step, so that a property of
runs can speak of the states passed through, of the inputs taken, and of
what an observer wrote down on the way.

Three rules are what the developments above use: `Run.invariant_of`, an
invariant kept by the steps a guard admits; `Run.forall_iff`, which turns
"a property of a step holds exactly when a condition on its source does"
into the same equivalence for whole runs; and `Run.map`, the refinement
mapping that carries the runs of one machine to the runs of another. A run
without an end is read through its prefixes, which are runs.
-/

/-- **A deterministic machine.** `step s a` is the state the input `a`
leads to from `s`, and `none` where `a` is not enabled in `s`. -/
structure Machine (σ α : Type*) where
  init : σ
  step : σ → α → Option σ

/-- One step of a run: where it was taken, on which input, and where it
led. -/
structure Transition (σ α : Type*) where
  src : σ
  act : α
  dst : σ

/-- A transition read through a map of states and a map of inputs. -/
def Transition.map {σ α τ β : Type*} (f : σ → τ) (g : σ → α → β) (t : Transition σ α) :
    Transition τ β :=
  ⟨f t.src, g t.src t.act, f t.dst⟩

namespace Machine

variable {σ α τ β : Type*} {M : Machine σ α} {tr : List (Transition σ α)} {s : σ}

/-- **The runs of a machine**: the trace taken from the initial state, and
the state it ends in. -/
inductive Run (M : Machine σ α) : List (Transition σ α) → σ → Prop
  /-- Before the first step. -/
  | init : Run M [] M.init
  /-- One step more. -/
  | snoc {tr : List (Transition σ α)} {s s' : σ} {a : α} :
      Run M tr s → M.step s a = some s' → Run M (tr ++ [⟨s, a, s'⟩]) s'

/-- The states a run passes through, the initial one first. -/
def visited (M : Machine σ α) (tr : List (Transition σ α)) : List σ :=
  M.init :: tr.map Transition.dst

@[simp] theorem mem_visited {x : σ} :
    x ∈ M.visited tr ↔ x = M.init ∨ ∃ t ∈ tr, t.dst = x := by
  simp [visited]

/-- What holds initially holds of all the states passed through if each
step leads to it. -/
theorem forall_mem_visited {P : σ → Prop} (h0 : P M.init) :
    (∀ x ∈ M.visited tr, P x) ↔ ∀ t ∈ tr, P t.dst := by
  simp [h0]

/-- A run ends in a state it passes through. -/
theorem Run.mem_visited (r : M.Run tr s) : s ∈ M.visited tr := by
  cases r with
  | init => simp
  | snoc _ _ => simp

/-- The machine from another state on. -/
def startAt (M : Machine σ α) (s : σ) : Machine σ α := ⟨s, M.step⟩

/-! ## Prefixes -/

/-- **A run passes through its steps.** Each step of the trace splits it
into a run up to the step's source, the step itself, and the rest. -/
theorem Run.split (r : M.Run tr s) {tr₁ tr₂ : List (Transition σ α)} {t : Transition σ α}
    (h : tr = tr₁ ++ t :: tr₂) : M.Run tr₁ t.src ∧ M.step t.src t.act = some t.dst := by
  induction r generalizing tr₂ with
  | init => simp at h
  | @snoc tr s s' a r hstep ih =>
    rcases List.eq_nil_or_concat tr₂ with rfl | ⟨front, last, rfl⟩
    · obtain ⟨h₁, h₂⟩ := List.append_inj' h rfl
      obtain rfl := (List.cons.inj h₂).1
      exact ⟨h₁ ▸ r, hstep⟩
    · rw [List.concat_eq_append, ← List.cons_append, ← List.append_assoc] at h
      exact ih (List.append_inj' h rfl).1

/-- **And goes on from where they lead.** -/
theorem Run.rest (r : M.Run tr s) {tr₁ tr₂ : List (Transition σ α)} {t : Transition σ α}
    (h : tr = tr₁ ++ t :: tr₂) : (M.startAt t.dst).Run tr₂ s := by
  induction r generalizing tr₂ with
  | init => simp at h
  | @snoc tr s s' a r hstep ih =>
    rcases List.eq_nil_or_concat tr₂ with rfl | ⟨front, last, rfl⟩
    · obtain ⟨-, h₂⟩ := List.append_inj' h rfl
      obtain rfl := (List.cons.inj h₂).1
      exact Run.init
    · rw [List.concat_eq_append, ← List.cons_append, ← List.append_assoc] at h
      obtain ⟨h₁, h₂⟩ := List.append_inj' h rfl
      obtain rfl := (List.cons.inj h₂).1
      rw [List.concat_eq_append]
      exact (ih h₁).snoc hstep

/-- Each step of a run leaves a state the machine reaches. -/
theorem Run.of_mem (r : M.Run tr s) {t : Transition σ α} (ht : t ∈ tr) :
    ∃ tr₁, M.Run tr₁ t.src ∧ M.step t.src t.act = some t.dst ∧ ∀ u ∈ tr₁, u ∈ tr := by
  obtain ⟨tr₁, tr₂, rfl⟩ := List.append_of_mem ht
  obtain ⟨hr, hstep⟩ := r.split rfl
  exact ⟨tr₁, hr, hstep, fun u hu => List.mem_append_left _ hu⟩

/-- **Each state of a run ends a run of some of its steps.** -/
theorem Run.of_mem_visited (r : M.Run tr s) {x : σ} (hx : x ∈ M.visited tr) :
    ∃ tr₁, M.Run tr₁ x ∧ ∀ u ∈ tr₁, u ∈ tr := by
  rcases M.mem_visited.1 hx with rfl | ⟨t, ht, rfl⟩
  · exact ⟨[], Run.init, fun u hu => absurd hu List.not_mem_nil⟩
  · obtain ⟨tr₁, r₁, hstep, hsub⟩ := r.of_mem ht
    refine ⟨tr₁ ++ [t], r₁.snoc hstep, List.forall_mem_append.2 ⟨hsub, ?_⟩⟩
    exact List.forall_mem_singleton.2 ht

/-! ## Invariants -/

/-- **The invariant rule, under a guard.** What holds initially and is
kept by every step the guard admits holds at the end of every run whose
steps all meet the guard. -/
theorem Run.invariant_of {I : σ → Prop} {G : σ → α → Prop} (h0 : I M.init)
    (hstep : ∀ {s a s'}, I s → G s a → M.step s a = some s' → I s')
    (r : M.Run tr s) (hG : ∀ t ∈ tr, G t.src t.act) : I s := by
  induction r with
  | init => exact h0
  | snoc _ h ih =>
    exact hstep (ih fun t ht => hG t (List.mem_append_left _ ht))
      (hG ⟨_, _, _⟩ (List.mem_append_right _ (List.mem_singleton_self _))) h

/-- **The invariant rule, from a step on.** What holds after a step of a
run and is kept by the steps that follow it holds after each of these. -/
theorem Run.invariant_after {I : σ → Prop} {G : σ → α → Prop}
    (hstep : ∀ {s a s'}, I s → G s a → M.step s a = some s' → I s') (r : M.Run tr s)
    {tr₁ tr₂ : List (Transition σ α)} {t : Transition σ α} (h : tr = tr₁ ++ t :: tr₂)
    (h0 : I t.dst) (hG : ∀ u ∈ tr₂, G u.src u.act) : I s ∧ ∀ u ∈ tr₂, I u.dst := by
  induction r generalizing tr₂ with
  | init => simp at h
  | @snoc tr s s' a r hs ih =>
    rcases List.eq_nil_or_concat tr₂ with rfl | ⟨front, last, rfl⟩
    · obtain ⟨-, h₂⟩ := List.append_inj' h rfl
      obtain rfl := (List.cons.inj h₂).1
      exact ⟨h0, fun u hu => absurd hu List.not_mem_nil⟩
    · rw [List.concat_eq_append, ← List.cons_append, ← List.append_assoc] at h
      obtain ⟨h₁, h₂⟩ := List.append_inj' h rfl
      obtain rfl := (List.cons.inj h₂).1
      rw [List.concat_eq_append, List.forall_mem_append, List.forall_mem_singleton] at hG ⊢
      obtain ⟨hI, hall⟩ := ih h₁ hG.1
      exact ⟨hstep hI hG.2 hs, hall, hstep hI hG.2 hs⟩

/-- The invariant rule, every step admitted. -/
theorem Run.invariant {I : σ → Prop} (h0 : I M.init)
    (hstep : ∀ {s a s'}, I s → M.step s a = some s' → I s') (r : M.Run tr s) : I s :=
  r.invariant_of (G := fun _ _ => True) h0 (fun hI _ h => hstep hI h) fun _ _ => trivial

/-- A quantity no step decreases is at its largest at the end of a run. -/
theorem Run.le_of_mem {ι : Type*} [Preorder ι] {f : σ → ι}
    (hmono : ∀ {s a s'}, M.step s a = some s' → f s ≤ f s') (r : M.Run tr s)
    {t : Transition σ α} (ht : t ∈ tr) : f t.dst ≤ f s := by
  induction r with
  | init => cases ht
  | snoc _ h ih =>
    rcases List.mem_append.1 ht with ht | ht
    · exact le_trans (ih ht) (hmono h)
    · rw [List.mem_singleton.1 ht]

/-- **From steps to runs, in both directions.** Where the invariant holds
a step has the property `Q` exactly when its source meets `C`, and such a
step keeps the invariant; then a run has the property at every step
exactly when all its steps meet `C`. `D` is what is assumed of every step
of the run. -/
theorem Run.forall_iff {I : σ → Prop} {C D : σ → α → Prop} {Q : σ → α → σ → Prop}
    (h0 : I M.init)
    (hQ : ∀ {s a s'}, I s → D s a → M.step s a = some s' → (Q s a s' ↔ C s a))
    (hI : ∀ {s a s'}, I s → D s a → C s a → M.step s a = some s' → I s')
    (r : M.Run tr s) (hD : ∀ t ∈ tr, D t.src t.act) :
    (∀ t ∈ tr, Q t.src t.act t.dst) ↔ ∀ t ∈ tr, C t.src t.act := by
  induction r with
  | init => simp
  | @snoc tr s s' a r h ih =>
    have hD' : ∀ t ∈ tr, D t.src t.act := fun t ht => hD t (List.mem_append_left _ ht)
    have hDa : D s a := hD ⟨s, a, s'⟩ (by simp)
    simp only [List.forall_mem_append, List.forall_mem_singleton, ih hD']
    refine and_congr_right fun hC => hQ ?_ hDa h
    exact r.invariant_of (G := fun s a => D s a ∧ C s a) h0
      (fun hs hG hst => hI hs hG.1 hG.2 hst) fun t ht => ⟨hD' t ht, hC t ht⟩

/-- **The same for a property of states**: it holds in every state the run
passes through exactly when every step meets `C`. -/
theorem Run.forall_visited_iff {I P : σ → Prop} {C D : σ → α → Prop} (h0 : I M.init)
    (hP0 : P M.init) (hI : ∀ {s a s'}, I s → M.step s a = some s' → I s')
    (hP : ∀ {s a s'}, I s → P s → D s a → M.step s a = some s' → (P s' ↔ C s a))
    (r : M.Run tr s) (hD : ∀ t ∈ tr, D t.src t.act) :
    (∀ x ∈ M.visited tr, P x) ↔ ∀ t ∈ tr, C t.src t.act := by
  rw [forall_mem_visited hP0]
  refine r.forall_iff (I := fun s => I s ∧ P s) (Q := fun _ _ s' => P s') ⟨h0, hP0⟩ ?_ ?_ hD
  · exact fun hs hd h => hP hs.1 hs.2 hd h
  · exact fun hs hd hC h => ⟨hI hs.1 h, (hP hs.1 hs.2 hd h).2 hC⟩

/-! ## Refinement mappings -/

/-- **Refinement.** Where each step of `M` is, through the maps, a step of
`N`, each run of `M` is a run of `N`. -/
theorem Run.map {N : Machine τ β} {f : σ → τ} {g : σ → α → β} (h0 : f M.init = N.init)
    (hstep : ∀ {s a s'}, M.step s a = some s' → N.step (f s) (g s a) = some (f s'))
    (r : M.Run tr s) : N.Run (tr.map (Transition.map f g)) (f s) := by
  induction r with
  | init => rw [h0]; exact Run.init
  | snoc _ h ih => rw [List.map_append]; exact Run.snoc ih (hstep h)

/-- The states passed through are mapped one by one. -/
theorem visited_map {N : Machine τ β} {f : σ → τ} {g : σ → α → β} (h0 : f M.init = N.init) :
    N.visited (tr.map (Transition.map f g)) = (M.visited tr).map f := by
  rw [visited, visited, List.map_cons, h0, List.map_map, List.map_map]
  rfl

/-- A transition read through a map of states and a map of some of the
inputs, and `none` where the input has no counterpart. -/
def projected (f : σ → τ) (g : α → Option β) (t : Transition σ α) : Option (Transition τ β) :=
  (g t.act).map fun b => ⟨f t.src, b, f t.dst⟩

/-- **Refinement with idle steps.** Where a step of `M` is a step of `N`, or
nothing at all to it, what a run of `M` is to `N` is a run. -/
theorem Run.project {N : Machine τ β} {f : σ → τ} {g : α → Option β} (h0 : f M.init = N.init)
    (hstep : ∀ {s a s'}, M.step s a = some s' →
      match g a with
      | some b => N.step (f s) b = some (f s')
      | none => f s' = f s)
    (r : M.Run tr s) : N.Run (tr.filterMap (projected f g)) (f s) := by
  induction r with
  | init => rw [h0]; exact Run.init
  | @snoc tr s s' a r h ih =>
    have hmove := hstep h
    rw [List.filterMap_append]
    cases ha : g a with
    | none =>
      rw [ha] at hmove
      have hskip : [(⟨s, a, s'⟩ : Transition σ α)].filterMap (projected f g) = [] := by
        simp [projected, ha]
      rw [hskip, List.append_nil, hmove]
      exact ih
    | some b =>
      rw [ha] at hmove
      have hone : [(⟨s, a, s'⟩ : Transition σ α)].filterMap (projected f g) =
          [⟨f s, b, f s'⟩] := by
        simp [projected, ha]
      rw [hone]
      exact ih.snoc hmove

/-- Where a transition read comes from. -/
theorem mem_projected {f : σ → τ} {g : α → Option β} {tr : List (Transition σ α)}
    {u : Transition τ β} (hu : u ∈ tr.filterMap (projected f g)) :
    ∃ t ∈ tr, g t.act = some u.act ∧ f t.src = u.src := by
  obtain ⟨t, ht, hproj⟩ := List.mem_filterMap.1 hu
  obtain ⟨b, hb, rfl⟩ := Option.map_eq_some_iff.1 hproj
  exact ⟨t, ht, hb, rfl⟩

/-- What is counted of the inputs that have a counterpart. -/
theorem countP_projected {f : σ → τ} {g : α → Option β} {p : β → Bool}
    {tr : List (Transition σ α)} :
    (tr.filterMap (projected f g)).countP (fun t => p t.act) =
      tr.countP fun t => (g t.act).any p := by
  induction tr with
  | nil => rfl
  | cons t tr ih =>
    cases h : g t.act <;> simp [projected, h, List.countP_cons, ih]

/-! ## Endless runs -/

/-- **A run without an end**: each state leads to the next. -/
structure Endless (M : Machine σ α) (ss : ℕ → σ) (as : ℕ → α) : Prop where
  zero : ss 0 = M.init
  step : ∀ n, M.step (ss n) (as n) = some (ss (n + 1))

/-- Its first steps are a run. -/
theorem Endless.run {ss : ℕ → σ} {as : ℕ → α} (h : M.Endless ss as) (n : ℕ) :
    M.Run ((List.range n).map fun k => ⟨ss k, as k, ss (k + 1)⟩) (ss n) := by
  induction n with
  | zero =>
    rw [h.zero]
    exact Run.init
  | succ n ih =>
    rw [List.range_succ, List.map_append]
    exact ih.snoc (h.step n)

/-- **Inputs that are always enabled are those of an endless run.** `I n`
is what makes the `n`th one enabled. -/
theorem exists_endless {I : ℕ → σ → Prop} {as : ℕ → α} (h0 : I 0 M.init)
    (hstep : ∀ n s, I n s → ∃ s', M.step s (as n) = some s' ∧ I (n + 1) s') :
    ∃ ss, M.Endless ss as := by
  choose next hnext hkept using hstep
  let states : (n : ℕ) → {s // I n s} := fun n =>
    Nat.rec ⟨M.init, h0⟩ (fun n s => ⟨next n s.1 s.2, hkept n s.1 s.2⟩) n
  exact ⟨fun n => (states n).1, rfl, fun n => hnext n (states n).1 (states n).2⟩

/-! ## Running a machine -/

/-- The inputs `as`, `n` times over. -/
def repeated (n : ℕ) (as : List α) : List α := (List.replicate n as).flatten

/-- The inputs `as` taken after the trace and state `p`. -/
def execFrom (M : Machine σ α) (p : List (Transition σ α) × σ) :
    List α → Option (List (Transition σ α) × σ)
  | [] => some p
  | a :: as =>
    match M.step p.2 a with
    | none => none
    | some s' => M.execFrom (p.1 ++ [⟨p.2, a, s'⟩], s') as

/-- The inputs `as` taken from the initial state. -/
def exec (M : Machine σ α) (as : List α) : Option (List (Transition σ α) × σ) :=
  M.execFrom ([], M.init) as

theorem run_of_execFrom {as : List α} {p q : List (Transition σ α) × σ} (r : M.Run p.1 p.2)
    (h : M.execFrom p as = some q) : M.Run q.1 q.2 := by
  induction as generalizing p with
  | nil => cases h; exact r
  | cons a as ih =>
    rw [execFrom] at h
    split at h
    · cases h
    · rename_i s' hs'
      exact ih (p := (p.1 ++ [⟨p.2, a, s'⟩], s')) (r.snoc hs') h

/-- **What a machine is computed to do is one of its runs.** -/
theorem exists_run_of_exec (as : List α) (φ : List (Transition σ α) → σ → Prop)
    [∀ tr s, Decidable (φ tr s)] (h : (M.exec as).any fun q => decide (φ q.1 q.2)) :
    ∃ tr s, M.Run tr s ∧ φ tr s := by
  cases he : M.exec as with
  | none => simp [he] at h
  | some q =>
    rw [he] at h
    exact ⟨q.1, q.2, run_of_execFrom Run.init he, of_decide_eq_true h⟩

end Machine
