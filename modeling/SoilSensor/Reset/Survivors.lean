import SoilSensor.Reset.Errors
/-!
# What a wipe leaves

A stack that deletes what it says it deletes leaves a fabric after a wipe
only where it said it did not (`exists_failed_of_survivor`), and it does not
matter what the calls in between do to the table as long as they commission
nothing. A wipe that reports no error has left none, and the boot that
follows asks for the commissioning window (`open_after_wipe`).
-/

namespace SoilSensor

open Wipe

variable {σ : Type*} {p : Stack σ} {w : Wipe σ} {c : Call} {world : σ}

/-- **A stack that does what it answers**: a deletion that is done leaves no
initialised entry of its fabric, and no call initialises one. -/
structure Stack.Lawful (p : Stack σ) : Prop where
  deleted : ∀ {i world f}, f ∈ p.fabricTable (p.effect (.fabricTableDelete i) world) →
    f.isInitialized → (Call.fabricTableDelete i).tolerates
      (p.result (.fabricTableDelete i) world) → f.fabricIndex ≠ i
  kept : ∀ {c world f}, f ∈ p.fabricTable (p.effect c world) → f.isInitialized →
    f ∈ p.fabricTable world

/-! ## Induction over a wipe -/

/-- **What every call keeps holds at the end**, if it does not depend on the
error reported. -/
structure Kept (p : Stack σ) (I : Wipe σ → Prop) : Prop where
  perform : ∀ {w c}, I w → I (w.perform p c)
  report : ∀ {w err}, I w → I { w with firstError := err }

namespace Kept

variable {I : Wipe σ → Prop} {tolerated : ChipError → Bool}

theorem attempt (hI : Kept p I) (h : I w) : I (w.attempt p c tolerated) := by
  have hp : I (w.perform p c) := hI.perform h
  unfold Wipe.attempt
  dsimp only
  split_ifs
  · exact hp
  · exact hI.report hp
  · exact hp

theorem unlessNull {present : Bool} {f : Wipe σ → Wipe σ} (hf : ∀ {w}, I w → I (f w)) (h : I w) :
    I (w.unlessNull present f) := by
  unfold Wipe.unlessNull
  split_ifs
  · exact hf h
  · exact h

theorem closeSessions (hI : Kept p I) (h : I w) : I (closeSessions p w) :=
  hI.perform (unlessNull hI.perform (hI.perform (hI.perform h)))

theorem deleteFabric (hI : Kept p I) {i : FabricIndex} (h : I w) : I (deleteFabric p w i) :=
  hI.perform (hI.attempt (unlessNull hI.attempt (unlessNull hI.attempt
    (unlessNull hI.perform (hI.perform h)))))

theorem deleteFabrics (hI : Kept p I) {fabrics : List FabricIndex} (h : I w) :
    I (fabrics.foldl (Wipe.deleteFabric p) w) := by
  induction fabrics generalizing w with
  | nil => exact h
  | cons i rest ih => exact ih (hI.deleteFabric h)

theorem resetServer (hI : Kept p I) (h : I w) : I (resetServer p w) := by
  have hacl : ∀ {w}, I w → I (w.notifyAclChanged p) := fun h =>
    unlessNull (fun h => hI.perform (hI.perform (hI.perform (hI.perform h)))) h
  exact hI.perform (hI.perform (hI.perform (hI.attempt (hI.perform (hacl (hI.perform h))))))

end Kept

/-! ## The survivors -/

/-- **Every deletion so far of a fabric that is still there has failed.** -/
def Owned (p : Stack σ) (w : Wipe σ) : Prop :=
  ∀ f ∈ p.fabricTable w.world, f.isInitialized →
    ∀ e ∈ w.log, e.call = .fabricTableDelete f.fabricIndex → e.failed

/-- A call keeps that: a deletion that is done leaves nothing to account
for, and the table only shrinks. -/
theorem kept_owned (hp : p.Lawful) : Kept p (Owned p) where
  perform := by
    intro w c hw f hf hinit e he hcall
    rcases List.mem_append.1 he with he | he
    · exact hw f (hp.kept hf hinit) hinit e he hcall
    · obtain rfl := List.mem_singleton.1 he
      obtain rfl : c = .fabricTableDelete f.fabricIndex := hcall
      by_contra hdone
      refine hp.deleted hf hinit ?_ rfl
      simpa [Performed.failed] using hdone
  report := fun hw => hw

/-- What is in the table after was in it before. -/
theorem kept_mem (hp : p.Lawful) (table : List FabricInfo) :
    Kept p fun w => ∀ f ∈ p.fabricTable w.world, f.isInitialized → f ∈ table where
  perform := fun hw f hf hinit => hw f (hp.kept hf hinit) hinit
  report := fun hw => hw

/-- **A fabric survives a wipe only if its own deletion failed.** -/
theorem exists_failed_of_survivor (hp : p.Lawful) {f : FabricInfo}
    (hf : f ∈ p.fabricTable (doFullMatterWipe p world).world) (hinit : f.isInitialized) :
    ∃ e ∈ (doFullMatterWipe p world).log, e.call = .fabricTableDelete f.fabricIndex ∧ e.failed := by
  have howned : Owned p (doFullMatterWipe p world) := by
    have hI := kept_owned hp
    refine hI.resetServer (hI.deleteFabrics (hI.closeSessions ?_))
    exact fun f _ _ e he => absurd he List.not_mem_nil
  -- it was there when the fabrics were collected, so its deletion was attempted
  have hcollected : f ∈ p.collected world := by
    have hI := kept_mem hp (p.collected world)
    exact hI.resetServer (hI.deleteFabrics fun f hf _ => hf) f hf hinit
  have hmem : Call.fabricTableDelete f.fabricIndex ∈ (doFullMatterWipe p world).calls := by
    have hindex : f.fabricIndex ∈ fabricsToDelete (p.collected world) :=
      List.mem_map_of_mem (List.mem_filter.2 ⟨hcollected, hinit⟩)
    rw [calls_wipe]
    refine List.mem_append_left _ (List.mem_append_right _ (List.mem_flatMap.2 ⟨_, hindex, ?_⟩))
    simp [Stack.deletions]
  obtain ⟨e, he, hcall⟩ := List.mem_map.1 hmem
  exact ⟨e, he, hcall, howned f hf hinit e he hcall⟩

/-- Fabrics that are counted are there. -/
theorem fabricCount_eq_zero {table : List FabricInfo} :
    fabricCount table = 0 ↔ ∀ f ∈ table, ¬ f.isInitialized := by
  rw [fabricCount, List.length_eq_zero_iff, List.filter_eq_nil_iff]

/-- **After a wipe the commissioning window is asked for, or the wipe says
why not.** In a stack that does what it answers, a fabric survives only if
its own deletion failed, whatever the other calls of the wipe answer. So a
boot that finds no fabric but what the wipe left asks for the commissioning
window, for 15 minutes, after every wipe that reported no error, and does
not ask only where the wipe reported one. Whether the window then opens is
for the stack to answer. -/
theorem open_after_wipe (p : Stack σ) (hp : p.Lawful) (world : σ) (openWindow : UInt32 → ChipError)
    {table : List FabricInfo} (htable : ∀ f ∈ table, f.isInitialized →
      f ∈ p.fabricTable (doFullMatterWipe p world).world) :
    (∀ f ∈ table, f.isInitialized → ∃ e ∈ (doFullMatterWipe p world).log,
        e.call = .fabricTableDelete f.fabricIndex ∧ e.failed) ∧
      ((doFullMatterWipe p world).firstError = .noError →
        ∃ call ∈ openCommissioningWindowIfNeeded openWindow table, call.timeout = 900) ∧
      (openCommissioningWindowIfNeeded openWindow table = none →
        (doFullMatterWipe p world).firstError ≠ .noError) := by
  have hsurvivors : ∀ f ∈ table, f.isInitialized → ∃ e ∈ (doFullMatterWipe p world).log,
      e.call = .fabricTableDelete f.fabricIndex ∧ e.failed :=
    fun f hf hinit => exists_failed_of_survivor hp (htable f hf hinit) hinit
  -- an error of a fabric's deletion is one that the wipe reports
  have hopen : (doFullMatterWipe p world).firstError = .noError → fabricCount table = 0 := by
    intro hok
    refine fabricCount_eq_zero.2 fun f hf hinit => ?_
    obtain ⟨e, he, hcall, hfailed⟩ := hsurvivors f hf hinit
    have hreported : e ∈ (doFullMatterWipe p world).reported := by
      refine List.mem_filter.2 ⟨he, ?_⟩
      rw [hcall]
      rfl
    have hacc : Accounted (doFullMatterWipe p world) := by
      have h0 : Accounted (⟨world, [], .noError⟩ : Wipe σ) := rfl
      exact h0.closeSessions.foldl_deleteFabric.resetServer
    rw [Accounted, hok] at hacc
    exact firstFailure_eq_noError.1 hacc.symm e hreported hfailed
  refine ⟨hsurvivors, fun hok => ?_, fun hshut hok => ?_⟩
  · rw [openCommissioningWindowIfNeeded, if_pos (hopen hok)]
    exact ⟨_, rfl, rfl⟩
  · rw [openCommissioningWindowIfNeeded, if_pos (hopen hok)] at hshut
    cases hshut

/-- The stack that is its fabric table does what it answers. -/
theorem lawful_tableStack {result : Call → ChipError} : (tableStack result).Lawful where
  deleted := by
    intro i table f hf _ _
    simpa using (List.mem_filter.1 hf).2
  kept := by
    intro c table f hf _
    cases c with
    | fabricTableDelete i => exact (List.mem_filter.1 hf).1
    | _ => exact hf

/-- Two fabrics are wiped, and the boot that finds the entry between them
asks for the window, even if the call then fails. -/
theorem open_after_wipe_two :
    (doFullMatterWipe (tableStack fun _ => .noError)
        [⟨1, true⟩, ⟨2, false⟩, ⟨3, true⟩]).world = [⟨2, false⟩] ∧
      (doFullMatterWipe (tableStack fun _ => .noError)
        [⟨1, true⟩, ⟨2, false⟩, ⟨3, true⟩]).firstError = .noError ∧
      ∃ call ∈ openCommissioningWindowIfNeeded (fun _ => .other 1) [⟨2, false⟩],
        call.timeout = 900 := by
  have hleft : ∀ f ∈ ([⟨2, false⟩] : List FabricInfo), f.isInitialized → f ∈
      (tableStack fun _ => .noError).fabricTable (doFullMatterWipe (tableStack fun _ => .noError)
        [⟨1, true⟩, ⟨2, false⟩, ⟨3, true⟩]).world := by
    intro f hf hinit
    rw [List.mem_singleton.1 hf] at hinit
    cases hinit
  exact ⟨by decide, by decide,
    (open_after_wipe _ lawful_tableStack _ _ hleft).2.1 (by decide)⟩

end SoilSensor
