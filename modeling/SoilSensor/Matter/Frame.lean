import SoilSensor.Matter.AttributeList
/-!
# The overrides change what they own

The registrations put seven or eight interfaces in front of the data model
and write one attribute of it. `answer_unchanged` compares the answers to a
read before and after them: outside Time Synchronization on endpoint 0, and
outside the paths an override answers, they are the same, whatever the data
model and whatever was registered before.

Registering is a fold over `overrides`, and one registration leaves every
read alone that its interface leaves to the data model.
-/

namespace SoilSensor

open AttrListSanitizer

variable {env : OverrideEnv} {s : AttributeServer} {i : AttributeAccessInterface}
variable {store : AttributeStore} {path : ConcreteAttributePath}

/-! ## One registration -/

/-- The interface would be asked for the path. -/
def AttributeAccessInterface.AsksFor (i : AttributeAccessInterface)
    (path : ConcreteAttributePath) : Prop :=
  AttributeAccessInterface.matching.handles i (path.mEndpointId, path.mClusterId)

theorem AttributeAccessInterface.asksFor_iff {endpoint : EndpointId}
    (h : i.mEndpointId = some endpoint) :
    i.AsksFor path ↔ path.mEndpointId = endpoint ∧ path.mClusterId = i.mClusterId := by
  simp only [AsksFor, matching, covers, h, Bool.and_eq_true, decide_eq_true_eq]
  exact ⟨fun hc => ⟨hc.2.symm, hc.1.symm⟩, fun hc => ⟨hc.2.symm, hc.1.symm⟩⟩

namespace AttributeServer

/-- A registration is refused, and counted, or puts the interface in
front. -/
theorem register_cases :
    s.register i = (false, { s with refused := s.refused + 1 }) ∨
      s.register i = (true, { s with registry := i :: s.registry }) ∧
        ∀ path, i.AsksFor path → s.get path = none := by
  unfold register
  split
  · rename_i registry hreg
    obtain ⟨rfl, -⟩ := Matching.register_eq_some hreg
    exact Or.inr ⟨rfl, fun path hasks => Matching.get_eq_none_of_register hreg hasks⟩
  · exact Or.inl rfl

theorem refused_le_register : s.refused ≤ (s.register i).2.refused := by
  rcases @register_cases s i with h | ⟨h, -⟩
  · rw [h]
    exact Nat.le_succ _
  · exact Nat.le_of_eq (by rw [h])

@[simp] theorem register_alt : (s.register i).2.sAltInterface = s.sAltInterface := by
  rcases @register_cases s i with h | ⟨h, -⟩ <;> rw [h]

@[simp] theorem register_base : (s.register i).2.base = s.base := by
  rcases @register_cases s i with h | ⟨h, -⟩ <;> rw [h]

@[simp] theorem register_sRegistered : (s.register i).2.sRegistered = s.sRegistered := by
  rcases @register_cases s i with h | ⟨h, -⟩ <;> rw [h]

/-- The guard of a registration function is none of the registry's. -/
theorem register_withRegistered {b : Bool} : ({ s with sRegistered := b }.register i).2 =
    { (s.register i).2 with sRegistered := b } := by
  unfold register
  dsimp only
  split <;> rfl

/-- **A registration leaves a read alone** that the interface is not asked
for, or leaves to the data model. -/
theorem readAttribute_register (h : i.AsksFor path → i.read path = .error .noError) :
    (s.register i).2.readAttribute path = s.readAttribute path := by
  rcases @register_cases s i with hr | ⟨hr, hnone⟩
  · rw [hr]; rfl
  · rw [hr]
    by_cases hasks : i.AsksFor path
    · have hget : AttributeServer.get path { s with registry := i :: s.registry } = some i :=
        Matching.get_cons_of_handles hasks
      -- nobody was asked for the path before, and now somebody who has no answer is
      rw [readAttribute, readAttribute, hget, hnone path hasks]
      simp only [h hasks]
    · have hget : AttributeServer.get path { s with registry := i :: s.registry } = s.get path :=
        Matching.get_cons_of_not_handles hasks
      rw [readAttribute, readAttribute, hget]

/-- **Who is asked for a path stays so**, whatever is registered after. -/
theorem get_register {j : AttributeAccessInterface} (hget : s.get path = some i) :
    (s.register j).2.get path = some i := by
  rcases @register_cases s j with h | ⟨h, hfree⟩
  · rw [h]; exact hget
  · rw [h]
    have hnot : ¬ j.AsksFor path := fun hj => by
      rw [hfree path hj] at hget
      cases hget
    exact (Matching.get_cons_of_not_handles hnot).trans hget

/-- A registration that is not refused makes the interface the one. -/
theorem get_register_self (h : (s.register i).2.refused = s.refused) (hasks : i.AsksFor path) :
    (s.register i).2.get path = some i := by
  rcases @register_cases s i with hr | ⟨hr, -⟩
  · rw [hr] at h
    exact absurd h (Nat.succ_ne_self _)
  · rw [hr]
    exact Matching.get_cons_of_handles hasks

/-- What is asked for the path answers it, if it does answer. -/
theorem readAttribute_of_get (hget : s.get path = some i) (hne : i.read path ≠ .error .noError) :
    s.readAttribute path = i.read path := by
  rw [readAttribute, hget]
  dsimp only
  split
  · rename_i h
    exact absurd h hne
  · rfl

end AttributeServer

/-! ## All of them -/

/-- Registrations one after another. -/
def registerAll : List AttributeAccessInterface → AttributeServer → AttributeServer
  | [], s => s
  | i :: is, s => registerAll is (s.register i).2

variable {is : List AttributeAccessInterface}

theorem refused_le_registerAll : s.refused ≤ (registerAll is s).refused := by
  induction is generalizing s with
  | nil => exact Nat.le_refl _
  | cons i is ih => exact Nat.le_trans AttributeServer.refused_le_register ih

/-- Registrations leave the data model and the guard alone. -/
theorem rest_registerAll :
    (registerAll is s).base = s.base ∧ (registerAll is s).sRegistered = s.sRegistered := by
  induction is generalizing s with
  | nil => exact ⟨rfl, rfl⟩
  | cons i is ih =>
    obtain ⟨hbase, hflag⟩ := @ih (s.register i).2
    exact ⟨hbase.trans AttributeServer.register_base,
      hflag.trans AttributeServer.register_sRegistered⟩

theorem registerAll_withRegistered {b : Bool} : registerAll is { s with sRegistered := b } =
    { registerAll is s with sRegistered := b } := by
  induction is generalizing s with
  | nil => rfl
  | cons i is ih => rw [registerAll, AttributeServer.register_withRegistered, ih, registerAll]

theorem readAttribute_registerAll
    (h : ∀ i ∈ is, i.AsksFor path → i.read path = .error .noError) :
    (registerAll is s).readAttribute path = s.readAttribute path := by
  induction is generalizing s with
  | nil => rfl
  | cons i is ih =>
    refine (ih fun j hj => h j (List.mem_cons_of_mem _ hj)).trans ?_
    exact AttributeServer.readAttribute_register (h i List.mem_cons_self)

theorem get_registerAll_of_get (hget : s.get path = some i) :
    (registerAll is s).get path = some i := by
  induction is generalizing s with
  | nil => exact hget
  | cons j is ih => exact ih (AttributeServer.get_register hget)

/-- **Where nothing is refused, each interface is the one that is asked.** -/
theorem get_registerAll (hnone : (registerAll is s).refused = s.refused) (hi : i ∈ is)
    (hasks : i.AsksFor path) : (registerAll is s).get path = some i := by
  induction is generalizing s with
  | nil => cases hi
  | cons j is ih =>
    have hle : (s.register j).2.refused ≤ s.refused := hnone ▸ refused_le_registerAll
    have hsame : (s.register j).2.refused = s.refused :=
      Nat.le_antisymm hle AttributeServer.refused_le_register
    rcases List.mem_cons.1 hi with rfl | hi
    · change (registerAll is (s.register i).2).get path = some i
      exact get_registerAll_of_get (AttributeServer.get_register_self hsame hasks)
    · exact ih (hnone.trans hsame.symm) hi

/-! ## What `main` registers -/

/-- The path that is written. -/
def gkmRevisionPath : ConcreteAttributePath :=
  ⟨0, Clusters.groupKeyManagement, kClusterRevisionId⟩

/-- What is registered, the store may have written to. -/
theorem registerGkmRevisionOverride_eq : ∃ written,
    (∀ path ≠ gkmRevisionPath, written path = s.base path) ∧
      registerGkmRevisionOverride store s =
        { (s.register gkmClusterRevisionOverride).2 with base := written } := by
  unfold registerGkmRevisionOverride
  rcases @AttributeServer.register_cases s gkmClusterRevisionOverride with h | ⟨h, -⟩
  · exact ⟨s.base, fun _ _ => rfl, by rw [h]⟩
  · refine ⟨store.emberAfWriteAttribute gkmRevisionPath 2 s.base,
      fun path hne => store.write_of_ne hne, ?_⟩
    rw [h]
    rfl

/-- **`main` registers the overrides in turn**, and may write one
attribute. -/
theorem registerOverrides_eq (registry : List AttributeAccessInterface)
    (base : ConcreteAttributePath → ReadAnswer) :
    ∃ written, (∀ path ≠ gkmRevisionPath, written path = base path) ∧
      registerOverrides env store (.boot registry base) =
        { registerAll (overrides env) (.boot registry base) with
          base := written, sRegistered := true } := by
  have hdelegate : (registerTimeSyncDelegate env (.boot registry base)).2 =
      { (AttributeServer.register (timeSyncDelegate env.timeSync) (.boot registry base)).2 with
        sRegistered := true } := rfl
  obtain ⟨written, helsewhere, hwritten⟩ := @registerGkmRevisionOverride_eq
    (registerIdentifyRevisionOverride 1 (ep0Register env (registerGenDiagAttrAccess
      (registerTimeSyncDelegate env (.boot registry base)).2))) store
  have hall : { registerAll (overrides env) (.boot registry base) with sRegistered := true } =
      ((registerIdentifyRevisionOverride 1 (ep0Register env (registerGenDiagAttrAccess
        (registerTimeSyncDelegate env (.boot registry base)).2))).register
          gkmClusterRevisionOverride).2 := by
    rw [← registerAll_withRegistered, hdelegate, ← AttributeServer.register_withRegistered]
    cases hsoil : env.soilEndpoint <;>
    simp [overrides, hsoil, registerAll, registerGenDiagAttrAccess, ep0Register,
      registerIdentifyRevisionOverride, getInterface, kDefaultEndpoint]
  have hbase := congrArg AttributeServer.base hall
  rw [AttributeServer.register_base] at hbase
  refine ⟨written, fun path hne => ?_, ?_⟩
  · rw [helsewhere path hne, ← hbase]
    exact congrFun rest_registerAll.1 path
  · rw [← hall] at hwritten
    exact hwritten

/-- **The clusters that are overridden**, by endpoint. The delegate's is
not one of them. -/
def overridden (env : OverrideEnv) : List (EndpointId × ClusterId) :=
  [(kEp0, Clusters.generalDiagnostics), (kEp0, Clusters.basicInformation),
    (kEp0, Clusters.descriptor)] ++
  (if env.soilEndpoint then [(kSoilEndpoint, Clusters.descriptor)] else []) ++
  [(kEp0, Clusters.icdManagement), (kSoilEndpoint, Clusters.identify),
    (kEp0, Clusters.groupKeyManagement)]

/-- **An override answers the path.** -/
def Answered (env : OverrideEnv) (path : ConcreteAttributePath) : Prop :=
  (path.mEndpointId, path.mClusterId) ∈ overridden env ∧
    path.mAttributeId ∈ answered path.mClusterId

/-- The path is the delegate's. -/
def OfTimeSync (path : ConcreteAttributePath) : Prop :=
  path.mEndpointId = kEp0 ∧ path.mClusterId = Clusters.timeSynchronization

/-- **Where the overrides stand**: at the clusters that are overridden and
the delegate's. -/
theorem map_overrides : (overrides env).map (fun i => (i.mEndpointId, i.mClusterId)) =
    ((kEp0, Clusters.timeSynchronization) :: overridden env).map fun k => (some k.1, k.2) := by
  cases hsoil : env.soilEndpoint <;>
  simp only [overrides, overridden, hsoil] <;>
  rfl

theorem mem_overridden (hi : i ∈ overrides env) : ∃ endpoint, i.mEndpointId = some endpoint ∧
    ((endpoint, i.mClusterId) = (kEp0, Clusters.timeSynchronization) ∨
      (endpoint, i.mClusterId) ∈ overridden env) := by
  have hmem := List.mem_map_of_mem (f := fun i => (i.mEndpointId, i.mClusterId)) hi
  rw [map_overrides] at hmem
  obtain ⟨k, hk, heq⟩ := List.mem_map.1 hmem
  obtain ⟨hend, hcl⟩ := Prod.mk.inj heq
  refine ⟨k.1, hend.symm, ?_⟩
  rw [← hcl]
  exact List.mem_cons.1 hk

theorem exists_override {k : EndpointId × ClusterId} (hk : k ∈ overridden env) :
    ∃ i ∈ overrides env, i.mEndpointId = some k.1 ∧ i.mClusterId = k.2 := by
  have hmem := List.mem_map_of_mem (f := fun k => (some k.1, k.2))
    (List.mem_cons_of_mem (kEp0, Clusters.timeSynchronization) hk)
  rw [← map_overrides] at hmem
  obtain ⟨i, hi, heq⟩ := List.mem_map.1 hmem
  exact ⟨i, hi, Prod.mk.inj heq⟩

/-- The delegate's cluster is not overridden. -/
theorem timeSynchronization_notMem {endpoint : EndpointId} :
    (endpoint, Clusters.timeSynchronization) ∉ overridden env := by
  cases hsoil : env.soilEndpoint <;>
  simp [overridden, hsoil, Clusters.timeSynchronization, Clusters.basicInformation,
    Clusters.descriptor, Clusters.icdManagement, Clusters.generalDiagnostics,
    Clusters.groupKeyManagement, Clusters.identify]

/-- **What is answered is what some override answers.** -/
theorem answered_iff : Answered env path ↔
    ¬ OfTimeSync path ∧ ∃ i ∈ overrides env, i.AsksFor path ∧ i.read path ≠ .error .noError := by
  obtain ⟨endpoint, cluster, a⟩ := path
  constructor
  · rintro ⟨hov, ha⟩
    obtain ⟨i, hi, hend, hcl⟩ := exists_override hov
    have hnot : cluster ≠ Clusters.timeSynchronization := fun h =>
      timeSynchronization_notMem (h ▸ hov)
    refine ⟨fun h => hnot h.2, i, hi, (i.asksFor_iff hend).2 ⟨rfl, hcl.symm⟩, ?_⟩
    change i.mClusterId = cluster at hcl
    subst hcl
    exact fun h => ((read_eq_noError_iff i hi _ hend a).1 h).2 ha
  · rintro ⟨hts, i, hi, hasks, hne⟩
    obtain ⟨e, hend, hov⟩ := mem_overridden hi
    obtain ⟨rfl, rfl⟩ : endpoint = e ∧ cluster = i.mClusterId := (i.asksFor_iff hend).1 hasks
    have hmem : (endpoint, i.mClusterId) ∈ overridden env :=
      hov.resolve_left fun h => hts (Prod.mk.inj h)
    refine ⟨hmem, ?_⟩
    by_contra ha
    have hnot : i.mClusterId ≠ Clusters.timeSynchronization := fun h =>
      timeSynchronization_notMem (h ▸ hmem)
    exact hne ((read_eq_noError_iff i hi _ hend a).2 ⟨hnot, ha⟩)

/-- **The overrides change what they own, and nothing else.** Where none is
refused, the delegate answers its cluster alone, and refuses what is not in
its list. -/
theorem answer_unchanged (env : OverrideEnv) (store : AttributeStore)
    (registry : List AttributeAccessInterface) (base : ConcreteAttributePath → ReadAnswer) :
    (∀ path, Answered env path ↔ ¬ OfTimeSync path ∧
      ∃ i ∈ overrides env, i.AsksFor path ∧ i.read path ≠ .error .noError) ∧
    (∀ path, ¬ OfTimeSync path → ¬ Answered env path →
      (registerOverrides env store (.boot registry base)).readAttribute path =
        AttributeServer.readAttribute path (.boot registry base)) ∧
    ((registerOverrides env store (.boot registry base)).refused = 0 → ∃ items,
      (registerOverrides env store (.boot registry base)).readAttribute
        ⟨kEp0, Clusters.timeSynchronization, kAttributeListId⟩ = .value (.list items) ∧
      ∀ a, ListItem.uint32 a ∉ items →
        (registerOverrides env store (.boot registry base)).readAttribute
          ⟨kEp0, Clusters.timeSynchronization, a⟩ =
            .error (.imGlobalStatus .unsupportedAttribute)) := by
  obtain ⟨written, helsewhere, hafter⟩ := @registerOverrides_eq env store registry base
  have hread : ∀ path, path ≠ gkmRevisionPath →
      (registerOverrides env store (.boot registry base)).readAttribute path =
        (registerAll (overrides env) (.boot registry base)).readAttribute path := by
    intro path hne
    have hbase : (registerAll (overrides env) (.boot registry base)).base path = written path := by
      rw [helsewhere path hne, rest_registerAll.1]
      rfl
    rw [hafter]
    simp only [AttributeServer.readAttribute, hbase]
    rfl
  refine ⟨fun path => answered_iff, fun path hts hans => ?_, fun hnone => ?_⟩
  · -- the path that is written is answered
    have hgkm : Answered env gkmRevisionPath :=
      ⟨List.mem_append_right _ (by decide), show kClusterRevisionId ∈
        answered Clusters.groupKeyManagement by decide⟩
    rw [hread path fun h => hans (h ▸ hgkm)]
    refine readAttribute_registerAll fun i hi hasks => ?_
    by_contra hne
    exact hans (answered_iff.2 ⟨hts, i, hi, hasks, hne⟩)
  · have hsame : (registerAll (overrides env) (.boot registry base)).refused = 0 := by
      rw [hafter] at hnone
      exact hnone
    have hdelegate : ∀ a, (registerOverrides env store (.boot registry base)).readAttribute
        ⟨kEp0, Clusters.timeSynchronization, a⟩ =
        (timeSyncDelegate env.timeSync).read ⟨kRootEndpoint, Clusters.timeSynchronization, a⟩ := by
      intro a
      have hne : (⟨kEp0, Clusters.timeSynchronization, a⟩ : ConcreteAttributePath) ≠
          gkmRevisionPath := by simp [gkmRevisionPath, Clusters.timeSynchronization,
            Clusters.groupKeyManagement]
      rw [hread _ hne]
      refine AttributeServer.readAttribute_of_get ?_ timeSync_read_ne_noError
      have hasks : (timeSyncDelegate env.timeSync).AsksFor
          ⟨kEp0, Clusters.timeSynchronization, a⟩ :=
        (AttributeAccessInterface.asksFor_iff rfl).2 ⟨rfl, rfl⟩
      exact get_registerAll hsame (by simp [overrides]) hasks
    refine ⟨timeSyncAttributes.map .uint32, hdelegate kAttributeListId, fun a ha => ?_⟩
    rw [uint32_mem_map] at ha
    rw [hdelegate, timeSync_read_of_notMem ha]

/-- On a fresh device the delegate refuses the time zone, which the data
model behind it serves. -/
theorem answer_unchanged_timeZone :
    (registerOverrides OverrideEnv.fresh .taking
        (.boot [] fun _ => .value (.list []))).readAttribute
      ⟨kEp0, Clusters.timeSynchronization, 0x0005⟩ =
        .error (.imGlobalStatus .unsupportedAttribute) := by
  obtain ⟨-, -, hts⟩ := answer_unchanged OverrideEnv.fresh .taking [] fun _ => .value (.list [])
  obtain ⟨items, hitems, hrefused⟩ := hts (by decide)
  refine hrefused 0x0005 ?_
  have hlist : (.value (.list (timeSyncAttributes.map .uint32)) : ReadAnswer) =
      .value (.list items) := hitems ▸ by decide
  cases hlist
  decide

end SoilSensor
