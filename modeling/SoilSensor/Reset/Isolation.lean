import SoilSensor.Reset.Model.Wipe
import Mathlib.Data.List.Nodup
/-!
# The wipe isolates failures

The calls of the wipe do not depend on what any of them answers, nor on
what the deletions leave of the table they are made from: the list of
indices is drawn up before the first of them. `calls_wipe` is the whole
trace, and `wipe_isolates` reads off it what a fabric of the table is
owed, once and in its place.
-/

namespace SoilSensor

open Wipe

variable {σ : Type*} {p : Stack σ} {w : Wipe σ} {c : Call} {i : FabricIndex}

/-! ## What is owed -/

/-- Calls that are made only where a pointer is not null. -/
def givenCalls (present : Bool) (calls : List Call) : List Call := if present then calls else []

/-- **The calls a fabric is owed**, those on null pointers left out. -/
def Stack.deletions (p : Stack σ) (fabricIndex : FabricIndex) : List Call :=
  .expireAllSessionsForFabric fabricIndex ::
    (givenCalls p.caseManager [.releaseSessionsForFabric fabricIndex] ++
      givenCalls p.resumption [.resumptionDeleteAll fabricIndex] ++
      givenCalls p.groupProvider [.groupRemoveFabric fabricIndex] ++
      ([.fabricTableDelete fabricIndex, .deleteAllEntriesForFabric fabricIndex] : List Call))

/-- The calls before the first fabric. -/
def Stack.opening (p : Stack σ) : List Call :=
  .forceFailSafeTimerExpiry :: .closeCommissioningWindow ::
    (givenCalls p.caseManager [.releaseAllSessions] ++ ([.expireAllSecureSessions] : List Call))

/-- The calls of `NotifyAclChanged`. -/
def aclChanged : List Call :=
  [.setDirty .acl, .setDirty .accessControlEntriesPerFabric,
    .setDirty .subjectsPerAccessControlEntry, .setDirty .targetsPerAccessControlEntry]

/-- The last calls, from the shutdown on. -/
def shutdownCalls : List Call :=
  [.shutdown, .kvsDoFactoryReset, .destroyEventManagement, .disarmFailSafe,
    .scheduleWork .settingsSave]

/-- The calls after the last fabric: the global reset. -/
def Stack.closing (p : Stack σ) : List Call :=
  .resetAccessControlToDefault :: (givenCalls p.engine aclChanged ++ shutdownCalls)

/-- The fabric table as it stands when the fabrics are collected. -/
def Stack.collected (p : Stack σ) (world : σ) : List FabricInfo :=
  p.fabricTable (closeSessions p ⟨world, [], .noError⟩).world

/-- The fabric a call is about. -/
def Call.fabric? : Call → Option FabricIndex
  | .expireAllSessionsForFabric i
  | .releaseSessionsForFabric i
  | .resumptionDeleteAll i
  | .groupRemoveFabric i
  | .fabricTableDelete i
  | .deleteAllEntriesForFabric i => some i
  | _ => none

/-! ## The trace -/

/-- The calls of a wipe, in order. -/
def Wipe.calls (w : Wipe σ) : List Call := w.log.map Performed.call

@[simp] theorem calls_perform : (w.perform p c).calls = w.calls ++ [c] := by
  simp [Wipe.calls, perform]

/-- An attempt is made whatever came before it, and whatever comes of it. -/
@[simp] theorem calls_attempt {tolerated : ChipError → Bool} :
    (w.attempt p c tolerated).calls = w.calls ++ [c] := by
  rw [← calls_perform (p := p)]
  unfold attempt
  dsimp only
  split_ifs <;> rfl

theorem calls_unlessNull {present : Bool} {f : Wipe σ → Wipe σ} {cs : List Call}
    (h : (f w).calls = w.calls ++ cs) :
    (w.unlessNull present f).calls = w.calls ++ givenCalls present cs := by
  unfold unlessNull givenCalls
  split_ifs
  · exact h
  · exact (List.append_nil _).symm

theorem calls_closeSessions : (closeSessions p w).calls = w.calls ++ p.opening := by
  simp only [closeSessions, calls_perform, Stack.opening]
  rw [calls_unlessNull calls_perform]
  simp

/-- **One fabric is dealt with in full.** -/
theorem calls_deleteFabric : (deleteFabric p w i).calls = w.calls ++ p.deletions i := by
  simp only [deleteFabric, calls_perform, calls_attempt, Stack.deletions]
  rw [calls_unlessNull calls_attempt, calls_unlessNull calls_attempt,
    calls_unlessNull calls_perform]
  simp

/-- **And so is every one of a list**, by induction on what is left of it:
what the deletions do to the stack is not looked at again. -/
theorem calls_foldl_deleteFabric {fabrics : List FabricIndex} :
    (fabrics.foldl (deleteFabric p) w).calls = w.calls ++ fabrics.flatMap p.deletions := by
  induction fabrics generalizing w with
  | nil => simp
  | cons i rest ih =>
    rw [List.foldl_cons, ih, calls_deleteFabric, List.flatMap_cons, List.append_assoc]

theorem calls_resetServer : (resetServer p w).calls = w.calls ++ p.closing := by
  have hacl : ∀ w : Wipe σ, (w.notifyAclChanged p).calls =
      w.calls ++ givenCalls p.engine aclChanged :=
    fun w => calls_unlessNull (by simp [aclPaths, aclChanged])
  simp only [resetServer, calls_perform, calls_attempt, hacl, Stack.closing]
  simp [shutdownCalls]

/-- **The trace of the wipe.** -/
theorem calls_wipe (p : Stack σ) (world : σ) : (doFullMatterWipe p world).calls =
    p.opening ++ (fabricsToDelete (p.collected world)).flatMap p.deletions ++ p.closing := by
  simp only [doFullMatterWipe]
  rw [calls_resetServer, calls_foldl_deleteFabric, calls_closeSessions]
  rfl

/-! ## Once each, and nothing else -/

theorem mem_of_mem_givenCalls {present : Bool} {cs : List Call} (h : c ∈ givenCalls present cs) :
    c ∈ cs := by
  unfold givenCalls at h
  split_ifs at h
  · exact h
  · cases h

theorem fabric_of_mem_deletions (h : c ∈ p.deletions i) : c.fabric? = some i := by
  have hgiven : ∀ {present : Bool} {d : Call}, c ∈ givenCalls present [d] → c = d :=
    fun h => List.mem_singleton.1 (mem_of_mem_givenCalls h)
  simp only [Stack.deletions, List.mem_append, List.mem_cons, List.not_mem_nil, or_false] at h
  rcases h with rfl | ((h | h) | h) | rfl | rfl
  · rfl
  · rw [hgiven h]; rfl
  · rw [hgiven h]; rfl
  · rw [hgiven h]; rfl
  · rfl
  · rfl

theorem fabric_of_mem_opening (h : c ∈ p.opening) : c.fabric? = none := by
  simp only [Stack.opening, List.mem_cons, List.mem_append, List.not_mem_nil, or_false] at h
  rcases h with rfl | rfl | h | rfl
  · rfl
  · rfl
  · rw [List.mem_singleton.1 (mem_of_mem_givenCalls h)]; rfl
  · rfl

theorem fabric_of_mem_closing (h : c ∈ p.closing) : c.fabric? = none := by
  have hacl : ∀ c ∈ aclChanged, c.fabric? = none := by decide
  have hshut : ∀ c ∈ shutdownCalls, c.fabric? = none := by decide
  rw [Stack.closing, List.mem_cons, List.mem_append] at h
  rcases h with rfl | h | h
  · rfl
  · exact hacl c (mem_of_mem_givenCalls h)
  · exact hshut c h

theorem nodup_deletions : (p.deletions i).Nodup := by
  unfold Stack.deletions givenCalls
  split_ifs <;> simp

/-- A call about a fabric is one of those a collected fabric is owed. -/
theorem mem_wipe_iff {world : σ} (hi : c.fabric? = some i) :
    c ∈ (doFullMatterWipe p world).calls ↔
      c ∈ (fabricsToDelete (p.collected world)).flatMap p.deletions := by
  rw [calls_wipe, List.mem_append, List.mem_append]
  constructor
  · rintro ((h | h) | h)
    · rw [fabric_of_mem_opening h] at hi; cases hi
    · exact h
    · rw [fabric_of_mem_closing h] at hi; cases hi
  · exact fun h => Or.inl (Or.inr h)

theorem nodup_fabricsToDelete {table : List FabricInfo}
    (hd : (table.map FabricInfo.fabricIndex).Nodup) : (fabricsToDelete table).Nodup :=
  hd.sublist (List.filter_sublist.map _)

/-- With distinct indices no call about a fabric is made twice. -/
theorem nodup_flatMap_deletions {fabrics : List FabricIndex} (hd : fabrics.Nodup) :
    (fabrics.flatMap p.deletions).Nodup := by
  rw [List.nodup_flatMap]
  refine ⟨fun i _ => nodup_deletions, hd.imp fun {i j} hne c hi hj => hne ?_⟩
  have h := fabric_of_mem_deletions hi
  rw [fabric_of_mem_deletions hj] at h
  exact (Option.some.inj h).symm

/-- The calls before the collection, where they leave the table, leave it
to be collected. -/
theorem collected_eq {world : σ}
    (h : ∀ c ∈ p.opening, ∀ x, p.fabricTable (p.effect c x) = p.fabricTable x) :
    p.collected world = p.fabricTable world := by
  unfold Stack.opening givenCalls at h
  unfold Stack.collected closeSessions unlessNull perform
  dsimp only
  split_ifs with hc
  · simp only [hc, if_true] at h
    rw [h _ (by simp), h _ (by simp), h _ (by simp), h _ (by simp)]
  · rw [h _ (by simp), h _ (by simp), h _ (by simp)]

/-- **The wipe isolates failures.** Whatever its calls answer and whatever
they leave of the stack, it makes for each fabric that the table holds
initialised the calls that fabric is owed, in table order and all before
the global reset, each of them once; and none about an entry that is not
initialised. The table is the one the wipe was entered with, where the
calls that come before its collection leave it. -/
theorem wipe_isolates (p : Stack σ) (world : σ)
    (hd : ((p.collected world).map FabricInfo.fabricIndex).Nodup) :
    (doFullMatterWipe p world).calls =
        p.opening ++ (fabricsToDelete (p.collected world)).flatMap p.deletions ++ p.closing ∧
      (∀ info ∈ p.collected world, info.isInitialized → ∀ c ∈ p.deletions info.fabricIndex,
        (doFullMatterWipe p world).calls.count c = 1) ∧
      (∀ info ∈ p.collected world, ¬ info.isInitialized → ∀ c ∈ (doFullMatterWipe p world).calls,
        c.fabric? ≠ some info.fabricIndex) ∧
      ((∀ c ∈ p.opening, ∀ x, p.fabricTable (p.effect c x) = p.fabricTable x) →
        p.collected world = p.fabricTable world) := by
  refine ⟨calls_wipe p world, ?_, ?_, collected_eq⟩
  · intro info hinfo hinit c hc
    have hi := fabric_of_mem_deletions hc
    have hmem : c ∈ (fabricsToDelete (p.collected world)).flatMap p.deletions := by
      refine List.mem_flatMap.2 ⟨info.fabricIndex, ?_, hc⟩
      exact List.mem_map_of_mem (List.mem_filter.2 ⟨hinfo, hinit⟩)
    -- the calls around the loop are about no fabric, so the loop makes the only one
    have hopen : c ∉ p.opening := fun h => by
      rw [fabric_of_mem_opening h] at hi; cases hi
    have hclose : c ∉ p.closing := fun h => by
      rw [fabric_of_mem_closing h] at hi; cases hi
    rw [calls_wipe, List.count_append, List.count_append, List.count_eq_zero.2 hopen,
      List.count_eq_zero.2 hclose, List.count_eq_one_of_mem
        (nodup_flatMap_deletions (nodup_fabricsToDelete hd)) hmem]
  · intro info hinfo hinit c hc hi
    rw [mem_wipe_iff hi] at hc
    obtain ⟨i, hmem, hci⟩ := List.mem_flatMap.1 hc
    obtain ⟨other, hother, rfl⟩ := List.mem_map.1 hmem
    obtain ⟨hotab, hoinit⟩ := List.mem_filter.1 hother
    -- two entries of one index are one entry
    have heq : other = info := by
      refine List.inj_on_of_nodup_map hd hotab hinfo ?_
      rw [fabric_of_mem_deletions hci] at hi
      exact Option.some.inj hi
    rw [heq] at hoinit
    exact hinit hoinit

/-- A stack whose state is its fabric table, which has no group data
provider, and whose calls answer `result`. -/
def tableStack (result : Call → ChipError) : Stack (List FabricInfo) where
  result call _ := result call
  effect call table :=
    match call with
    | .fabricTableDelete i => table.filter fun info => info.fabricIndex ≠ i
    | _ => table
  fabricTable := id
  caseManager := true
  resumption := true
  groupProvider := false
  engine := true

/-- Two fabrics around an entry that is not initialised, and every call
fails. -/
theorem wipe_isolates_two :
    let w := doFullMatterWipe (tableStack fun _ => .other 1) [⟨1, true⟩, ⟨2, false⟩, ⟨3, true⟩]
    w.world = [⟨2, false⟩] ∧ w.calls.count (.fabricTableDelete 3) = 1 ∧
      ∀ c ∈ w.calls, c.fabric? ≠ some 2 := by
  obtain ⟨-, honce, hnone, -⟩ := wipe_isolates (tableStack fun _ => .other 1)
    [⟨1, true⟩, ⟨2, false⟩, ⟨3, true⟩] (by decide)
  exact ⟨by decide, honce ⟨3, true⟩ (by decide) rfl _ (by decide),
    hnone ⟨2, false⟩ (by decide) (by decide)⟩

end SoilSensor
