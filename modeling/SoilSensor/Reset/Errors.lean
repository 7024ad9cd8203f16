import SoilSensor.Reset.Isolation
/-!
# What the wipe answers

One variable, `firstError`, collects the errors of four kinds of deletion,
each with its own tolerance, over any number of fabrics. Read against the
log it is a search: the first entry that failed. The fifth kind of
deletion, of the access control entries, is left out of it: its result is
discarded where the call is made.
-/

namespace SoilSensor

open Wipe

variable {σ : Type*} {p : Stack σ} {w : Wipe σ} {c : Call} {e : Performed} {log : List Performed}

/-- The call deletes something. -/
def Call.isDeletion : Call → Bool
  | .resumptionDeleteAll _
  | .groupRemoveFabric _
  | .fabricTableDelete _
  | .deleteAllEntriesForFabric _
  | .kvsDoFactoryReset => true
  | _ => false

/-- And its result is looked at. -/
def Call.isReported : Call → Bool
  | .deleteAllEntriesForFabric _ => false
  | call => call.isDeletion

/-- **What a deletion may answer and still count as done.** -/
def Call.tolerates : Call → ChipError → Bool
  | .resumptionDeleteAll _, err
  | .groupRemoveFabric _, err => isBenignNotFound err || err = .notImplemented
  | .fabricTableDelete _, err
  | .deleteAllEntriesForFabric _, err => err = .noError || err = .notFound
  | _, err => err = .noError

/-- The call did not do what it was made for. -/
def Performed.failed (e : Performed) : Bool := !e.call.tolerates e.result

/-- **The error of the first deletion of a log that failed**, and
`CHIP_NO_ERROR` where none did. -/
def firstFailure (log : List Performed) : ChipError :=
  match log.find? Performed.failed with
  | some e => e.result
  | none => .noError

/-- The deletions whose result the wipe reports. -/
def Wipe.reported (w : Wipe σ) : List Performed := w.log.filter fun e => e.call.isReported

/-! ## First failures -/

@[simp] theorem tolerates_noError : c.tolerates .noError := by cases c <;> rfl

/-- Success is tolerated of every call, so a failure is an error. -/
theorem result_of_failed (h : e.failed) : e.result ≠ .noError := by
  intro hr
  rw [Performed.failed, hr, tolerates_noError] at h
  cases h

theorem firstFailure_eq_noError : firstFailure log = .noError ↔ ∀ e ∈ log, ¬ e.failed := by
  unfold firstFailure
  split
  · rename_i e he
    refine iff_of_false ?_ fun h => h e (List.mem_of_find?_eq_some he) (List.find?_some he)
    exact result_of_failed (List.find?_some he)
  · rename_i he
    exact iff_of_true rfl fun e hmem hfail => List.find?_eq_none.1 he e hmem hfail

/-- One entry more counts only where there was no failure before. -/
theorem firstFailure_append : firstFailure (log ++ [e]) =
    if firstFailure log = .noError then (if e.failed then e.result else .noError)
    else firstFailure log := by
  by_cases h : firstFailure log = .noError
  · have hnone : log.find? Performed.failed = none :=
      List.find?_eq_none.2 (firstFailure_eq_noError.1 h)
    rw [if_pos h, firstFailure, List.find?_append, hnone, Option.none_or]
    by_cases hf : e.failed
    · rw [List.find?_cons_of_pos hf, if_pos hf]
    · rw [List.find?_cons_of_neg hf, if_neg hf]
      rfl
  · rw [if_neg h]
    unfold firstFailure at h ⊢
    rw [List.find?_append]
    cases hfind : log.find? Performed.failed with
    | none => rw [hfind] at h; exact absurd rfl h
    | some e => rfl

/-! ## The wipe keeps count -/

/-- **The invariant**: `firstError` is what the reported deletions say. -/
def Accounted (w : Wipe σ) : Prop := w.firstError = firstFailure w.reported

theorem Accounted.perform (h : Accounted w) (hc : c.isReported = false) :
    Accounted (w.perform p c) := by
  have hrep : (w.perform p c).reported = w.reported := by
    simp [Wipe.reported, Wipe.perform, hc]
  rw [Accounted, hrep]
  exact h

/-- **A reported deletion is counted by its own tolerance.** -/
theorem Accounted.attempt {tolerated : ChipError → Bool} (h : Accounted w)
    (hc : c.isReported) (htol : ∀ err, tolerated err = c.tolerates err) :
    Accounted (w.attempt p c tolerated) := by
  have hrep : (w.attempt p c tolerated).reported = w.reported ++ [⟨c, p.result c w.world⟩] := by
    unfold Wipe.attempt Wipe.reported
    dsimp only
    split_ifs <;> simp [Wipe.perform, hc]
  rw [Accounted, hrep, firstFailure_append, ← h]
  have hfail : (⟨c, p.result c w.world⟩ : Performed).failed = !tolerated (p.result c w.world) := by
    rw [Performed.failed, htol]
  rw [hfail]
  unfold Wipe.attempt
  dsimp only
  cases tolerated (p.result c w.world) with
  | true =>
    by_cases hw : w.firstError = .noError
    · simp [Wipe.perform, hw]
    · simp [Wipe.perform, hw]
  | false =>
    by_cases hw : w.firstError = .noError
    · simp [Wipe.perform, hw]
    · simp [Wipe.perform, hw]

theorem Accounted.unlessNull {present : Bool} {f : Wipe σ → Wipe σ} (h : Accounted w)
    (hf : Accounted w → Accounted (f w)) : Accounted (w.unlessNull present f) := by
  unfold Wipe.unlessNull
  split_ifs
  · exact hf h
  · exact h

theorem Accounted.closeSessions (h : Accounted w) : Accounted (closeSessions p w) :=
  ((h.perform rfl).perform rfl |>.unlessNull fun h => h.perform rfl).perform rfl

/-- The calls for one fabric are counted as they are made. -/
theorem Accounted.deleteFabric {i : FabricIndex} (h : Accounted w) :
    Accounted (deleteFabric p w i) := by
  unfold Wipe.deleteFabric
  refine Accounted.perform (Accounted.attempt (Accounted.unlessNull (Accounted.unlessNull
    (Accounted.unlessNull (h.perform rfl) ?_) ?_) ?_) rfl fun _ => rfl) rfl
  · exact fun h => h.perform rfl
  · exact fun h => h.attempt rfl fun _ => rfl
  · exact fun h => h.attempt rfl fun _ => rfl

theorem Accounted.foldl_deleteFabric {fabrics : List FabricIndex} (h : Accounted w) :
    Accounted (fabrics.foldl (Wipe.deleteFabric p) w) := by
  induction fabrics generalizing w with
  | nil => exact h
  | cons i rest ih => exact ih h.deleteFabric

theorem Accounted.resetServer (h : Accounted w) : Accounted (resetServer p w) := by
  have hacl : ∀ w : Wipe σ, Accounted w → Accounted (w.notifyAclChanged p) := by
    intro w h
    refine h.unlessNull fun h => ?_
    exact (((h.perform rfl).perform rfl).perform rfl).perform rfl
  unfold Wipe.resetServer
  refine Accounted.perform (Accounted.perform (Accounted.perform (Accounted.attempt
    (Accounted.perform (hacl _ (h.perform rfl)) rfl) rfl ?_) rfl) rfl) rfl
  exact fun _ => rfl

/-- **The wipe answers with its first failure** among the deletions whose
results it looks at, and with `CHIP_NO_ERROR` exactly where each of them
did its work or answered what is tolerated of it. -/
theorem wipe_reports_first_failure (p : Stack σ) (world : σ) :
    ((doFullMatterWipe p world).firstError = .noError ↔
        ∀ e ∈ (doFullMatterWipe p world).log, e.call.isReported → e.call.tolerates e.result) ∧
      (doFullMatterWipe p world).firstError =
        firstFailure ((doFullMatterWipe p world).log.filter fun e => e.call.isReported) := by
  have hacc : Accounted (doFullMatterWipe p world) := by
    have h0 : Accounted (⟨world, [], .noError⟩ : Wipe σ) := rfl
    exact h0.closeSessions.foldl_deleteFabric.resetServer
  refine ⟨?_, hacc⟩
  rw [hacc, firstFailure_eq_noError]
  simp only [Wipe.reported, List.mem_filter, Performed.failed, Bool.not_eq_true',
    Bool.not_eq_false, and_imp]

/-- **A failure to delete the access control entries is not reported**: it
is the only call that fails, and the wipe answers `CHIP_NO_ERROR`. -/
theorem wipe_discards_acl_failure :
    ¬ ∀ (p : Stack (List FabricInfo)) (world : List FabricInfo),
      ((doFullMatterWipe p world).firstError = .noError ↔
        ∀ e ∈ (doFullMatterWipe p world).log, e.call.isDeletion → e.call.tolerates e.result) ∧
      (doFullMatterWipe p world).firstError =
        firstFailure ((doFullMatterWipe p world).log.filter fun e => e.call.isDeletion) := by
  intro hall
  have h := (hall (tableStack fun call => if call = .deleteAllEntriesForFabric 1 then .other 1
    else .noError) [⟨1, true⟩]).2
  exact absurd h (by decide)

end SoilSensor
