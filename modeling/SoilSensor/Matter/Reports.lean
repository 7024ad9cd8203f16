import SoilSensor.Common.Ledger
import SoilSensor.Matter.Guards
/-!
# Who is told that access changed

Subscribers hear of a change of an access control entry through the listener
that `InitializeFabricHandlers` adds, which marks four attributes for
reporting. The guard of its addition is what makes every change one report
of each: however often the function is called, the listener is there once
(`acl_reported`).
-/

namespace SoilSensor

/-- `NotifyAclChanged`, where there is an engine or not: what it marks for
reporting. -/
def notifyAclChanged (engine : Bool) : List AclAttribute := if engine then aclPaths else []

/-- What a listener does with a change; the others report nothing here. -/
def EntryListener.onEntryChanged (engine : Bool) : EntryListener → List AclAttribute
  | .gAccessControlEntryListener => notifyAclChanged engine
  | .other _ => []

/-- **The access control as `main` sets it up**, with what has been marked
for reporting. -/
structure AclReports where
  registrations : Registrations
  dirty : List AclAttribute
  deriving DecidableEq

/-- What happens to it: a registration call, `AssertRootAccessControlReady`,
and the change of an entry, which `AccessControl` hands to its listeners. -/
inductive AclStep
  | call (call : RegistrationCall)
  | assertRootAccessControlReady (containsServer engine : Bool)
  | changeEntry (engine : Bool)
  deriving DecidableEq

/-- **The reports, step by step.** `AssertRootAccessControlReady` dies where
the cluster is missing. -/
def aclReports (attributeAccess : List AccessInterface) (entryListeners : List EntryListener)
    (fabricDelegates : List FabricDelegate) : Machine AclReports AclStep where
  init := ⟨.boot attributeAccess entryListeners fabricDelegates, []⟩
  step
    | s, .call call =>
      ((registrations attributeAccess entryListeners fabricDelegates).step s.registrations
        call).map fun registrations => { s with registrations := registrations }
    | s, .assertRootAccessControlReady containsServer engine =>
      if containsServer then some { s with dirty := s.dirty ++ notifyAclChanged engine } else none
    | s, .changeEntry engine =>
      some { s with
        dirty := s.dirty ++ s.registrations.entryListeners.flatMap (·.onEntryChanged engine) }

namespace AclStep

/-- The step is a call of `InitializeFabricHandlers`. -/
def initializes : AclStep → Bool
  | .call (.initializeFabricHandlers _ _) => true
  | _ => false

/-- What a step marks itself. -/
def asserted : AclStep → List AclAttribute
  | .assertRootAccessControlReady _ engine => notifyAclChanged engine
  | _ => []

/-- What a step is to mark once the listener is there. -/
def reported : AclStep → List AclAttribute
  | .changeEntry engine => notifyAclChanged engine
  | a => a.asserted

end AclStep

open Machine

variable {attributeAccess : List AccessInterface} {entryListeners : List EntryListener}
variable {fabricDelegates : List FabricDelegate} {s s' : AclReports} {a : AclStep}
variable {tr : List (Transition AclReports AclStep)}

/-- The guard of the listener. -/
def AclReports.listener (s : AclReports) : Guarded EntryListener := s.registrations.aclListener

/-- **What a step does to the listener**: `InitializeFabricHandlers` adds it
behind its guard, and nothing else touches it. -/
theorem listener_step
    (h : (aclReports attributeAccess entryListeners fabricDelegates).step s a = some s') :
    s'.listener = if a.initializes then
      s.listener.call (fun _ => true) .gAccessControlEntryListener true else s.listener := by
  cases a with
  | call call =>
    obtain ⟨registrations, hcall, rfl⟩ := Option.map_eq_some_iff.1 h
    cases call with
    | registerTimeSyncDelegate registered =>
      obtain rfl := Option.some.inj hcall
      exact (@Registrations.guards_register s.registrations registered).2.1
    | initializeFabricHandlers delegateErr fabricTable =>
      obtain rfl := Option.some.inj hcall
      exact (@Registrations.guards_handlers s.registrations delegateErr fabricTable).2.1
  | assertRootAccessControlReady containsServer engine =>
    simp only [aclReports] at h
    split_ifs at h
    obtain rfl := Option.some.inj h
    rfl
  | changeEntry engine =>
    obtain rfl := Option.some.inj h
    rfl

/-- The listener is there once, or not at all. -/
def Once (entryListeners : List EntryListener) (s : AclReports) : Prop :=
  s.listener.Honest .gAccessControlEntryListener entryListeners

theorem once_step (hs : Once entryListeners s)
    (h : (aclReports attributeAccess entryListeners fabricDelegates).step s a = some s') :
    Once entryListeners s' := by
  rw [Once, listener_step h]
  split_ifs
  · exact hs.call_iff.2 fun _ => rfl
  · exact hs

theorem once_of_run
    (r : (aclReports attributeAccess entryListeners fabricDelegates).Run tr s) :
    Once entryListeners s := by
  refine r.invariant (I := Once entryListeners) ?_ fun hs h => once_step hs h
  exact Guarded.honest_init

/-- What a step is to mark as the listener stands. -/
def AclReports.marks (s : AclReports) (a : AclStep) : List AclAttribute :=
  if s.listener.flag then a.reported else a.asserted

/-- **What a step marks**: a change is reported if the listener is there. -/
theorem dirty_step (hfirst : .gAccessControlEntryListener ∉ entryListeners)
    (hs : Once entryListeners s)
    (h : (aclReports attributeAccess entryListeners fabricDelegates).step s a = some s') :
    s'.dirty = s.dirty ++ s.marks a := by
  have hothers : ∀ engine, entryListeners.flatMap (·.onEntryChanged engine) = [] := by
    intro engine
    refine List.flatMap_eq_nil_iff.2 fun listener hmem => ?_
    cases listener with
    | gAccessControlEntryListener => exact absurd hmem hfirst
    | other id => rfl
  cases a with
  | call call =>
    obtain ⟨registrations, -, rfl⟩ := Option.map_eq_some_iff.1 h
    have hnone : s.marks (.call call) = [] := by
      rw [AclReports.marks]
      split_ifs <;> rfl
    rw [hnone, List.append_nil]
  | assertRootAccessControlReady containsServer engine =>
    simp only [aclReports] at h
    split_ifs at h
    obtain rfl := Option.some.inj h
    rw [AclReports.marks]
    split_ifs <;> rfl
  | changeEntry engine =>
    obtain rfl := Option.some.inj h
    have hlisteners : s.registrations.entryListeners =
        if s.listener.flag then .gAccessControlEntryListener :: entryListeners
        else entryListeners := hs
    dsimp only
    rw [hlisteners, AclReports.marks]
    split_ifs
    · rw [List.flatMap_cons, hothers, List.append_nil]
      rfl
    · rw [hothers]
      rfl

/-! ## Runs -/

/-- What the steps of a trace are to mark. -/
def reports (tr : List (Transition AclReports AclStep)) : List AclAttribute :=
  tr.flatMap fun t => t.act.reported

/-- **The flag stays set.** -/
theorem flag_of_after (r : (aclReports attributeAccess entryListeners fabricDelegates).Run tr s)
    {tr₁ tr₂ : List (Transition AclReports AclStep)} {t : Transition AclReports AclStep}
    (h : tr = tr₁ ++ t :: tr₂) (hinit : t.act.initializes = true) : s.listener.flag = true := by
  have hset : t.dst.listener.flag = true := by
    rw [listener_step (r.split h).2, if_pos hinit, Guarded.flag_call, Bool.or_true]
  refine (r.invariant_after (I := fun s => s.listener.flag = true) (G := fun _ _ => True)
    (fun {s a s'} hs _ hstep => ?_) h hset fun _ _ => trivial).1
  rw [listener_step hstep]
  split_ifs
  · rw [Guarded.flag_call, hs, Bool.true_or]
  · exact hs

/-- And is set by no other call. -/
theorem flag_of_not_initialized
    (r : (aclReports attributeAccess entryListeners fabricDelegates).Run tr s)
    (hno : ∀ t ∈ tr, t.act.initializes = false) : s.listener.flag = false := by
  refine r.invariant_of (I := fun s => s.listener.flag = false)
    (G := fun _ a => a.initializes = false) rfl (fun {s a s'} hs ha hstep => ?_) hno
  rw [listener_step hstep, ha]
  exact hs

/-- **What has been marked** is what the steps were to mark, as the flag
stood. -/
theorem dirty_of_run (hfirst : .gAccessControlEntryListener ∉ entryListeners)
    (r : (aclReports attributeAccess entryListeners fabricDelegates).Run tr s) :
    s.dirty = through AclReports.marks tr := by
  have h := r.logged (I := Once entryListeners) (l := AclReports.dirty) (f := AclReports.marks)
    (once_of_run Run.init) (fun hs h => once_step hs h) fun hs h => dirty_step hfirst hs h
  exact h

/-- **Every change of access is reported once.** Before the first call of
`InitializeFabricHandlers` nothing is marked but by
`AssertRootAccessControlReady`; from it on, every change of an entry marks
the four attributes, each once, however often the function is called again
and whatever `AddFabricDelegate` answers. -/
theorem acl_reported (attributeAccess : List AccessInterface) (entryListeners : List EntryListener)
    (fabricDelegates : List FabricDelegate)
    (hfirst : .gAccessControlEntryListener ∉ entryListeners)
    {tr : List (Transition AclReports AclStep)} {s : AclReports}
    (r : (aclReports attributeAccess entryListeners fabricDelegates).Run tr s) :
    ((∀ t ∈ tr, t.act.initializes = false) → s.dirty = tr.flatMap fun t => t.act.asserted) ∧
      ∀ tr₁ t tr₂, tr = tr₁ ++ t :: tr₂ → t.act.initializes = true →
        s.dirty = t.dst.dirty ++ reports tr₂ := by
  have hdirty := dirty_of_run hfirst r
  refine ⟨fun hno => ?_, fun tr₁ t tr₂ htr hinit => ?_⟩
  · rw [hdirty, through]
    refine List.flatMap_congr fun t ht => ?_
    obtain ⟨tr₁, r₁, -, hsub⟩ := r.of_mem ht
    rw [AclReports.marks, flag_of_not_initialized r₁ fun u hu => hno u (hsub u hu)]
    rfl
  · obtain ⟨r₁, hstep⟩ := r.split htr
    have hrest : through AclReports.marks tr₂ = reports tr₂ := by
      refine List.flatMap_congr fun u hu => ?_
      obtain ⟨tr₃, tr₄, rfl⟩ := List.append_of_mem hu
      have hsplit : tr = (tr₁ ++ t :: tr₃) ++ u :: tr₄ := by
        rw [htr, List.append_assoc, List.cons_append]
      rw [AclReports.marks, flag_of_after (r.split hsplit).1 rfl hinit]
      rfl
    rw [hdirty, htr, ← hrest, dirty_step hfirst (once_of_run r₁) hstep, dirty_of_run hfirst r₁]
    simp [through]

/-- Two changes, each after a call of `InitializeFabricHandlers`, the first
with the fabric delegate refused. -/
theorem acl_reported_twice : ∃ tr s, (aclReports [] [.other 0] []).Run tr s ∧
    s.dirty = notifyAclChanged true ++ (notifyAclChanged true ++ notifyAclChanged true) := by
  obtain ⟨tr, s, r, t, hhead, hinit, hdirty, hrest⟩ :=
    (aclReports [] [.other 0] []).exists_run_of_exec
      [.changeEntry true, .assertRootAccessControlReady true true,
        .call (.initializeFabricHandlers .noMemory []), .changeEntry true,
        .call (.initializeFabricHandlers .noError []), .changeEntry true]
      (fun tr _ => ∃ t ∈ (tr.drop 2).head?, t.act.initializes = true ∧
        t.dst.dirty = notifyAclChanged true ∧
        reports (tr.drop 2).tail = notifyAclChanged true ++ notifyAclChanged true)
      (by decide +kernel)
  have hsplit : tr = tr.take 2 ++ t :: (tr.drop 2).tail := by
    rw [List.cons_head?_tail hhead, List.take_append_drop]
  refine ⟨tr, s, r, ?_⟩
  rw [(acl_reported [] [.other 0] [] (by decide) r).2 _ t _ hsplit hinit, hdirty, hrest]

end SoilSensor
