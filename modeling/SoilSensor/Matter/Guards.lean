import SoilSensor.Matter.Frame
import SoilSensor.Matter.Model.Registration
/-!
# The guards of the one-shot registrations

The same guard is written three times. That of the fabric delegate reads
the answer of the registry, and that of the entry listener has none to
read; that of the time synchronization delegate takes every answer for an
acceptance. Each is a guarded call (`Guarded.call`) with its own rule, and
the flags tell the truth along a run exactly if no answer of `Register` is
a refusal that the third guard overlooks (`guards_honest_iff`).
-/

namespace SoilSensor

namespace Registrations

variable {attributeAccess : List AccessInterface} {entryListeners : List EntryListener}
variable {fabricDelegates : List FabricDelegate}
variable {s₀ s s' : Registrations} {a : RegistrationCall} {registered : Bool}
variable {delegateErr : ChipError} {fabricTable : List FabricInfo}
variable {tr : List (Transition Registrations RegistrationCall)}

/-! ## The three guards -/

/-- The guard of `RegisterTimeSyncDelegate`. -/
def timeSync (s : Registrations) : Guarded AccessInterface := ⟨s.sRegistered, s.attributeAccess⟩

/-- The guard of `AddEntryListener`. -/
def aclListener (s : Registrations) : Guarded EntryListener :=
  ⟨s.sAclListenerRegistered, s.entryListeners⟩

/-- The guard of `AddFabricDelegate`. -/
def fabricDelegate (s : Registrations) : Guarded FabricDelegate :=
  ⟨s.sFabricDelegateRegistered, s.fabricDelegates⟩

/-- **`RegisterTimeSyncDelegate` sets its guard by every answer**, and
leaves the others alone. -/
theorem guards_register :
    (s.registerTimeSyncDelegate registered).2.timeSync =
        s.timeSync.call (fun _ => true) .timeSyncDelegate registered ∧
      (s.registerTimeSyncDelegate registered).2.aclListener = s.aclListener ∧
      (s.registerTimeSyncDelegate registered).2.fabricDelegate = s.fabricDelegate := by
  cases hflag : s.sRegistered with
  | true =>
    rw [Guarded.call_of_flag hflag, registerTimeSyncDelegate, if_pos hflag]
    exact ⟨rfl, rfl, rfl⟩
  | false =>
    rw [Guarded.call_of_not_flag hflag, registerTimeSyncDelegate, hflag]
    cases registered <;> exact ⟨rfl, rfl, rfl⟩

/-- The first block of `InitializeFabricHandlers`, which has no answer to
read. -/
theorem guards_addAclListener :
    s.addAclListener.timeSync = s.timeSync ∧
      s.addAclListener.aclListener =
        s.aclListener.call (fun _ => true) .gAccessControlEntryListener true ∧
      s.addAclListener.fabricDelegate = s.fabricDelegate := by
  cases hflag : s.sAclListenerRegistered with
  | true =>
    rw [Guarded.call_of_flag hflag, addAclListener, if_pos hflag]
    exact ⟨rfl, rfl, rfl⟩
  | false =>
    rw [Guarded.call_of_not_flag hflag, addAclListener, hflag]
    exact ⟨rfl, rfl, rfl⟩

/-- The second, which reads the answer. -/
theorem guards_addFabricDelegate :
    (s.addFabricDelegate delegateErr).2.timeSync = s.timeSync ∧
      (s.addFabricDelegate delegateErr).2.aclListener = s.aclListener ∧
      (s.addFabricDelegate delegateErr).2.fabricDelegate =
        s.fabricDelegate.call id .gCaseAdminAclFabricDelegate (delegateErr = .noError) := by
  cases hflag : s.sFabricDelegateRegistered with
  | true =>
    rw [Guarded.call_of_flag hflag, addFabricDelegate, if_pos hflag]
    exact ⟨rfl, rfl, rfl⟩
  | false =>
    have hset : ¬ s.sFabricDelegateRegistered = true := by
      rw [hflag]
      exact Bool.false_ne_true
    rw [Guarded.call_of_not_flag hflag, addFabricDelegate, if_neg hset]
    by_cases herr : delegateErr = .noError
    · rw [if_pos herr, decide_eq_true herr]
      exact ⟨rfl, rfl, rfl⟩
    · have hleft : s.fabricDelegate = ⟨false, s.fabricDelegates⟩ :=
        congrArg₂ Guarded.mk hflag rfl
      -- a refusal that is logged and one that is not leave the same state
      rw [if_neg herr, decide_eq_false herr, if_neg Bool.false_ne_true]
      split_ifs <;> exact ⟨rfl, rfl, hleft⟩

/-- **`InitializeFabricHandlers` sets the second guard, and the third by an
acceptance alone**; it leaves the first alone. -/
theorem guards_handlers :
    (s.initializeFabricHandlers delegateErr fabricTable).2.timeSync = s.timeSync ∧
      (s.initializeFabricHandlers delegateErr fabricTable).2.aclListener =
        s.aclListener.call (fun _ => true) .gAccessControlEntryListener true ∧
      (s.initializeFabricHandlers delegateErr fabricTable).2.fabricDelegate =
        s.fabricDelegate.call id .gCaseAdminAclFabricDelegate (delegateErr = .noError) := by
  obtain ⟨htime, hlistener, hdelegate⟩ := @guards_addAclListener s
  obtain ⟨htime', hlistener', hdelegate'⟩ :=
    @guards_addFabricDelegate s.addAclListener delegateErr
  refine ⟨htime'.trans htime, hlistener'.trans hlistener, ?_⟩
  rw [← hdelegate]
  exact hdelegate'

/-- `RegisterTimeSyncDelegate` has one result: what `main` logs of another
is never logged. -/
theorem result_register : (s.registerTimeSyncDelegate registered).1 = .noError := by
  unfold registerTimeSyncDelegate
  split_ifs <;> rfl

/-- What `InitializeFabricHandlers` logs is a refusal of the delegate. -/
theorem eq_of_mem_log {entry : RegistrationLog}
    (h : entry ∈ (s.initializeFabricHandlers delegateErr fabricTable).1) :
    delegateErr ≠ .noError ∧ entry = .fabricAclDelegate delegateErr := by
  have hensured : ensureCaseAdminEntries fabricTable = [] := by
    refine List.filterMap_eq_nil_iff.2 fun info _ => ?_
    split_ifs <;> rfl
  change entry ∈ (s.addAclListener.addFabricDelegate delegateErr).1 ++
    ensureCaseAdminEntries fabricTable at h
  rw [hensured, List.append_nil] at h
  unfold addFabricDelegate at h
  split_ifs at h with _ herr _
  · cases h
  · cases h
  · exact ⟨herr, List.mem_singleton.1 h⟩
  · cases h

/-! ## One call -/

/-- **The flags of a state do not lie**: where one is set, its object was
added once to what the registry held at first. -/
structure Truthful (s₀ s : Registrations) : Prop where
  timeSync : s.sRegistered → s.attributeAccess = .timeSyncDelegate :: s₀.attributeAccess
  aclListener : s.sAclListenerRegistered →
    s.entryListeners = .gAccessControlEntryListener :: s₀.entryListeners
  fabricDelegate : s.sFabricDelegateRegistered →
    s.fabricDelegates = .gCaseAdminAclFabricDelegate :: s₀.fabricDelegates

/-- **A call tries what its flags do not say is done**: it adds the object,
or leaves the flag unset for a later call; and `RegisterTimeSyncDelegate`
returns `CHIP_NO_ERROR` with its delegate in the registry only. -/
def Sound (s : Registrations) (a : RegistrationCall) (s' : Registrations) : Prop :=
  match a with
  | .registerTimeSyncDelegate registered =>
    s.timeSync.Tries .timeSyncDelegate registered s'.timeSync ∧
      ((s.registerTimeSyncDelegate registered).1 = .noError →
        .timeSyncDelegate ∈ s'.attributeAccess)
  | .initializeFabricHandlers delegateErr _ =>
    s.aclListener.Tries .gAccessControlEntryListener true s'.aclListener ∧
      s.fabricDelegate.Tries .gCaseAdminAclFabricDelegate (delegateErr = .noError)
        s'.fabricDelegate

/-- **The refusal that is overlooked**: `Register` refuses the delegate to a
call of `RegisterTimeSyncDelegate` that finds `sRegistered` unset. -/
def Overlooks (s : Registrations) : RegistrationCall → Prop
  | .registerTimeSyncDelegate registered => s.sRegistered = false ∧ registered = false
  | .initializeFabricHandlers _ _ => False

instance : Decidable (s.Overlooks a) := by
  unfold Overlooks
  cases a <;> infer_instance

/-- **What holds between calls** as long as nothing is overlooked. -/
structure Honest (s₀ s : Registrations) : Prop where
  timeSync : s.timeSync.Honest .timeSyncDelegate s₀.attributeAccess
  aclListener : s.aclListener.Honest .gAccessControlEntryListener s₀.entryListeners
  fabricDelegate : s.fabricDelegate.Honest .gCaseAdminAclFabricDelegate s₀.fabricDelegates

theorem Honest.truthful (h : Honest s₀ s) : Truthful s₀ s :=
  ⟨h.timeSync.registry_eq, h.aclListener.registry_eq, h.fabricDelegate.registry_eq⟩

theorem honest_boot : Honest (.boot attributeAccess entryListeners fabricDelegates)
    (.boot attributeAccess entryListeners fabricDelegates) :=
  ⟨Guarded.honest_init, Guarded.honest_init, Guarded.honest_init⟩

theorem Honest.step (h : Honest s₀ s) (hno : ¬ s.Overlooks a)
    (hstep : (registrations attributeAccess entryListeners fabricDelegates).step s a = some s') :
    Honest s₀ s' := by
  cases a with
  | registerTimeSyncDelegate registered =>
    cases hstep
    obtain ⟨htime, hlistener, hdelegate⟩ := @guards_register s registered
    constructor
    · rw [htime, h.timeSync.call_iff]
      intro hflag
      cases registered with
      | true => rfl
      | false => exact absurd ⟨hflag, rfl⟩ hno
    · rw [hlistener]
      exact h.aclListener
    · rw [hdelegate]
      exact h.fabricDelegate
  | initializeFabricHandlers delegateErr fabricTable =>
    cases hstep
    obtain ⟨htime, hlistener, hdelegate⟩ := @guards_handlers s delegateErr fabricTable
    constructor
    · rw [htime]
      exact h.timeSync
    · rw [hlistener, h.aclListener.call_iff]
      exact fun _ => rfl
    · rw [hdelegate, h.fabricDelegate.call_iff]
      exact fun _ => rfl

/-- **A call is sound exactly if it overlooks no refusal.** -/
theorem Honest.sound_iff (h : Honest s₀ s)
    (hstep : (registrations attributeAccess entryListeners fabricDelegates).step s a = some s') :
    s.Sound a s' ↔ ¬ s.Overlooks a := by
  have hafter : ¬ s.Overlooks a → Honest s₀ s' := fun hno => h.step hno hstep
  cases a with
  | registerTimeSyncDelegate registered =>
    cases hstep
    obtain ⟨htime, -, -⟩ := @guards_register s registered
    have htries : s.timeSync.Tries .timeSyncDelegate registered
        (s.registerTimeSyncDelegate registered).2.timeSync ↔
          ¬ s.Overlooks (.registerTimeSyncDelegate registered) := by
      rw [htime, Guarded.tries_call_iff]
      exact ⟨fun hc hov => Bool.false_ne_true (hc hov.1 hov.2).symm,
        fun hno hflag hrefused => absurd ⟨hflag, hrefused⟩ hno⟩
    have hset : (s.registerTimeSyncDelegate registered).2.timeSync.flag = true := by
      rw [htime, Guarded.flag_call, Bool.or_true]
    constructor
    · intro hsound
      exact htries.1 hsound.1
    · intro hno
      refine ⟨htries.2 hno, fun _ => ?_⟩
      rw [(hafter hno).truthful.timeSync hset]
      exact List.mem_cons_self
  | initializeFabricHandlers delegateErr fabricTable =>
    cases hstep
    obtain ⟨-, hlistener, hdelegate⟩ := @guards_handlers s delegateErr fabricTable
    refine iff_of_true ⟨?_, ?_⟩ id
    · rw [hlistener, Guarded.tries_call_iff]
      exact fun _ hrefused => absurd hrefused.symm Bool.false_ne_true
    · rw [hdelegate, Guarded.tries_call_iff]
      exact fun _ _ => rfl

/-! ## Runs -/

/-- **The guards never lie exactly if no refusal is overlooked**: in every
state the flags that are set tell the truth, and every call tries what they
do not say is done. -/
theorem guards_honest_iff {tr : List (Transition Registrations RegistrationCall)}
    (r : (registrations attributeAccess entryListeners fabricDelegates).Run tr s) :
    ((∀ x ∈ (registrations attributeAccess entryListeners fabricDelegates).visited tr,
        Truthful (.boot attributeAccess entryListeners fabricDelegates) x) ∧
      ∀ t ∈ tr, t.src.Sound t.act t.dst) ↔
    ∀ t ∈ tr, ¬ t.src.Overlooks t.act := by
  rw [Machine.forall_mem_visited honest_boot.truthful, ← forall₂_and]
  refine r.forall_iff (C := fun s a => ¬ s.Overlooks a) (D := fun _ _ => True)
    (I := Honest (.boot attributeAccess entryListeners fabricDelegates))
    (Q := fun s a s' => Truthful (.boot attributeAccess entryListeners fabricDelegates) s' ∧
      s.Sound a s')
    honest_boot ?_ ?_ fun _ _ => trivial
  · intro s a s' h _ hstep
    refine ⟨fun hboth => (h.sound_iff hstep).1 hboth.2, fun hno => ?_⟩
    exact ⟨(h.step hno hstep).truthful, (h.sound_iff hstep).2 hno⟩
  · exact fun h _ hno hstep => h.step hno hstep

/-- Refusals of the fabric delegate, which is tried again. -/
theorem guards_honest_after_retry : ∃ tr s, (registrations [.other 0] [] [.other 1]).Run tr s ∧
    (tr.length = 4 ∧ s.sRegistered ∧ s.sAclListenerRegistered ∧ s.sFabricDelegateRegistered) ∧
    (∀ x ∈ (registrations [.other 0] [] [.other 1]).visited tr,
      Truthful (.boot [.other 0] [] [.other 1]) x) ∧
    ∀ t ∈ tr, t.src.Sound t.act t.dst := by
  obtain ⟨tr, s, r, hno, hset⟩ := (registrations [.other 0] [] [.other 1]).exists_run_of_exec
    [.initializeFabricHandlers .noMemory [⟨1, true⟩], .registerTimeSyncDelegate true,
      .initializeFabricHandlers .noError [⟨1, true⟩], .registerTimeSyncDelegate false]
    (fun tr s => (∀ t ∈ tr, ¬ t.src.Overlooks t.act) ∧ tr.length = 4 ∧ s.sRegistered ∧
      s.sAclListenerRegistered ∧ s.sFabricDelegateRegistered) (by decide)
  exact ⟨tr, s, r, hset, (guards_honest_iff r).2 hno⟩

/-- **The first guard lies after a refusal**: the delegate is not in the
registry, and no later call tries again. -/
theorem guard_lies_after_refusal : ∃ tr s, (registrations [.other 0] [] []).Run tr s ∧
    (tr.map Transition.act = [.registerTimeSyncDelegate false, .registerTimeSyncDelegate true] ∧
      s.sRegistered ∧ s.attributeAccess = [.other 0]) ∧
    ¬ ((∀ x ∈ (registrations [.other 0] [] []).visited tr, Truthful (.boot [.other 0] [] []) x) ∧
      ∀ t ∈ tr, t.src.Sound t.act t.dst) := by
  obtain ⟨tr, s, r, hacts, hset, hregistry⟩ := (registrations [.other 0] [] []).exists_run_of_exec
    [.registerTimeSyncDelegate false, .registerTimeSyncDelegate true]
    (fun tr s =>
      tr.map Transition.act = [.registerTimeSyncDelegate false, .registerTimeSyncDelegate true] ∧
        s.sRegistered ∧ s.attributeAccess = [.other 0]) (by decide)
  refine ⟨tr, s, r, ⟨hacts, hset, hregistry⟩, fun hall => ?_⟩
  have hadded := (hall.1 s r.mem_visited).timeSync hset
  rw [hregistry] at hadded
  exact absurd hadded (by decide)

end Registrations

/-! ## The application's registry

There the answer of `Register` is not any: an interface is refused where it
overlaps one that is registered. -/

/-- The guard of its `RegisterTimeSyncDelegate`. -/
def AttributeServer.timeSync (s : AttributeServer) : Guarded AttributeAccessInterface :=
  ⟨s.sRegistered, s.registry⟩

/-- **It is the same guarded call.** -/
theorem AttributeServer.timeSync_register (env : OverrideEnv) (s : AttributeServer) :
    (registerTimeSyncDelegate env s).2.timeSync = s.timeSync.call (fun _ => true)
      (timeSyncDelegate env.timeSync) (s.register (timeSyncDelegate env.timeSync)).1 := by
  cases hflag : s.sRegistered with
  | true => rw [Guarded.call_of_flag hflag, registerTimeSyncDelegate, if_pos hflag]
  | false =>
    rw [Guarded.call_of_not_flag hflag, registerTimeSyncDelegate, hflag]
    rcases @AttributeServer.register_cases s (timeSyncDelegate env.timeSync) with h | ⟨h, -⟩
    · rw [h]
      rfl
    · rw [h]
      rfl

/-- **Its flag lies where another interface overlaps the delegate.** -/
theorem AttributeServer.honest_register_iff (env : OverrideEnv)
    (registry : List AttributeAccessInterface) (base : ConcreteAttributePath → ReadAnswer) :
    (registerTimeSyncDelegate env (.boot registry base)).2.timeSync.Honest
        (timeSyncDelegate env.timeSync) registry ↔
      ¬ ∃ j ∈ registry, AttributeAccessInterface.matching.overlaps j
        (timeSyncDelegate env.timeSync) := by
  have hbefore : (AttributeServer.boot registry base).timeSync.Honest
      (timeSyncDelegate env.timeSync) registry := Guarded.honest_init
  have haccepted : ((AttributeServer.boot registry base).register
      (timeSyncDelegate env.timeSync)).1 = true ↔
        AttributeAccessInterface.matching.register (timeSyncDelegate env.timeSync) registry ≠
          none := by
    unfold AttributeServer.register AttributeServer.boot
    dsimp only
    cases AttributeAccessInterface.matching.register (timeSyncDelegate env.timeSync) registry with
    | none => exact iff_of_false Bool.false_ne_true fun hc => hc rfl
    | some registry' => exact iff_of_true rfl nofun
  rw [AttributeServer.timeSync_register, hbefore.call_iff, ← Matching.register_eq_none_iff,
    ← ne_eq, ← haccepted]
  exact ⟨fun h => (h rfl).symm, fun h _ => h.symm⟩

end SoilSensor
