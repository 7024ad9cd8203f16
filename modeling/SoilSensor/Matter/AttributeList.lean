import SoilSensor.Matter.Answers
import SoilSensor.Matter.Model.DataModel
/-!
# The attribute lists

Four lists are written by hand, one for each cluster whose `AttributeList`
is overridden, and each should name the attributes a read of the cluster
yields. What yields is decided elsewhere: by the branches of the override,
and behind it by the data model with the optional attributes switched on at
run time. `listed_iff_yields_iff` says which ids are forgotten: all of them
are Basic Information's, its feature map and the optional attributes.
-/

namespace SoilSensor

open AttrListSanitizer

/-- **A read yields a value**: the override encodes one, or leaves the read
to a data model that serves the attribute. -/
def Yields (i : AttributeAccessInterface) (endpoint : EndpointId) (a : AttributeId) : Prop :=
  match i.read ⟨endpoint, i.mClusterId, a⟩ with
  | .value _ => True
  | .error .noError => DataModel.Serves ⟨endpoint, i.mClusterId, a⟩
  | .error _ => False

/-- An attribute its list leaves out. -/
def Forgotten (cluster : ClusterId) (a : AttributeId) : Prop :=
  cluster = Clusters.basicInformation ∧
    (a = kFeatureMapId ∨ a ∈ DataModel.optionalAttributes)

variable {env : OverrideEnv} {endpoint : EndpointId} {cluster : ClusterId} {a : AttributeId}
variable {i : AttributeAccessInterface} {listed served : List AttributeId}

theorem yields_of_value (h : ∃ v, i.read ⟨endpoint, i.mClusterId, a⟩ = .value v) :
    Yields i endpoint a := by
  obtain ⟨v, hv⟩ := h
  rw [Yields, hv]
  trivial

theorem yields_of_noError (h : i.read ⟨endpoint, i.mClusterId, a⟩ = .error .noError) :
    Yields i endpoint a ↔ DataModel.Serves ⟨endpoint, i.mClusterId, a⟩ := by
  rw [Yields, h]

theorem not_yields_of_refused {status : Status}
    (h : i.read ⟨endpoint, i.mClusterId, a⟩ = .error (.imGlobalStatus status)) :
    ¬ Yields i endpoint a := by
  rw [Yields, h]
  exact id

/-- The ids of an encoded list. -/
theorem uint32_mem_map : ListItem.uint32 a ∈ listed.map ListItem.uint32 ↔ a ∈ listed := by
  simp

/-! ## Cluster by cluster -/

/-- The attributes of the delegate's list. -/
def timeSyncAttributes : List AttributeId :=
  [0x0000, 0x0001, 0x0002, kGeneratedCmdListId, kAcceptedCmdListId, kAttributeListId,
    kFeatureMapId, kClusterRevisionId]

theorem timeSync_read_of_mem {s : TimeSync.State} (ha : a ∈ timeSyncAttributes) :
    ∃ v, (timeSyncDelegate s).read ⟨kRootEndpoint, cluster, a⟩ = .value v := by
  simp only [timeSyncAttributes, List.mem_cons, List.not_mem_nil, or_false] at ha
  rcases ha with rfl | rfl | rfl | rfl | rfl | rfl | rfl | rfl
  · change ∃ v, (TimeSync.read ⟨kRootEndpoint, .utcTime⟩ s).answer = .value v
    cases h : s.mUtcTime <;> simp [TimeSync.read, h, TimeSync.ReadOutcome.answer]
  all_goals exact ⟨_, rfl⟩

/-- **The delegate refuses every attribute that is not in its list.** -/
theorem timeSync_read_of_notMem {s : TimeSync.State} (ha : a ∉ timeSyncAttributes) :
    (timeSyncDelegate s).read ⟨kRootEndpoint, cluster, a⟩ =
      .error (.imGlobalStatus .unsupportedAttribute) := by
  simp only [timeSyncAttributes, List.mem_cons, List.not_mem_nil, or_false, not_or] at ha
  obtain ⟨h₁, h₂, h₃, h₄, h₅, h₆, h₇, h₈⟩ := ha
  change (TimeSync.read ⟨kRootEndpoint, .ofId a⟩ s).answer = _
  simp only [TimeSync.AttributeId.ofId, h₁, h₂, h₃, h₄, h₅, h₆, h₇, h₈, if_false]
  split_ifs <;> rfl

theorem timeSync_yields_iff {s : TimeSync.State} :
    Yields (timeSyncDelegate s) kRootEndpoint a ↔ a ∈ timeSyncAttributes := by
  by_cases ha : a ∈ timeSyncAttributes
  · exact iff_of_true (yields_of_value (timeSync_read_of_mem ha)) ha
  · exact iff_of_false (not_yields_of_refused (timeSync_read_of_notMem ha)) ha

theorem basicInfo_yields_iff :
    Yields (attrListSanitizer env kEp0 Clusters.basicInformation) kEp0 a ↔
      a ∈ answered Clusters.basicInformation ∨
        DataModel.Serves ⟨kEp0, Clusters.basicInformation, a⟩ := by
  by_cases ha : a ∈ answered Clusters.basicInformation
  · exact iff_of_true (yields_of_value (readBasicInfo_of_mem ha)) (Or.inl ha)
  · exact (yields_of_noError (readBasicInfo_of_notMem ha)).trans (or_iff_right ha).symm

theorem descriptor_yields_iff (he : endpoint = kEp0 ∨ endpoint = kSoilEndpoint) :
    Yields (attrListSanitizer env endpoint Clusters.descriptor) endpoint a ↔
      a ∈ descriptorAttributes := by
  by_cases ha : a ∈ descriptorAttributes
  · refine iff_of_true (yields_of_value ?_) ha
    exact sanitizer_read_descriptor ▸ readDescriptor_of_mem he ha
  · refine (yields_of_noError (sanitizer_read_descriptor.trans (readDescriptor_of_notMem ha))).trans
      (iff_of_false ?_ ha)
    -- the endpoints enable no attribute that the override does not answer
    have hsub : DataModel.enabled endpoint Clusters.descriptor ⊆ descriptorAttributes := by
      rcases he with rfl | rfl <;> decide
    rintro (hen | ⟨-, hbasic, -⟩)
    · exact ha (hsub hen)
    · cases hbasic

theorem icd_yields_iff :
    Yields (attrListSanitizer env kEp0 Clusters.icdManagement) kEp0 a ↔ a ∈ icdAttributes := by
  by_cases ha : a ∈ icdAttributes
  · exact iff_of_true (yields_of_value (readIcd_of_mem ha)) ha
  · refine iff_of_false ?_ ha
    by_cases hr : a ∈ [kIcdRegisteredClients, kIcdIcdCounter]
    · exact not_yields_of_refused (readIcd_of_refused hr)
    · have hnot : a ∉ answered Clusters.icdManagement := by
        change a ∉ icdAttributes ++ [kIcdRegisteredClients, kIcdIcdCounter]
        exact fun h => (List.mem_append.1 h).elim ha hr
      rw [yields_of_noError (readIcd_of_notMem hnot)]
      rintro (hen | ⟨-, hbasic, -⟩)
      · cases hen
      · cases hbasic

/-! ## The lists -/

/-- What is listed of Basic Information is what yields, but for what is
forgotten. -/
theorem basicInfo_listed_iff :
    (a ∈ answered Clusters.basicInformation ∨
        DataModel.Serves ⟨kEp0, Clusters.basicInformation, a⟩) ↔
      a ∈ basicInfoAttributes ∨ Forgotten Clusters.basicInformation a := by
  have hfrom : answered Clusters.basicInformation ++
      DataModel.enabled kEp0 Clusters.basicInformation ⊆
        kFeatureMapId :: basicInfoAttributes := by decide
  have hto : kFeatureMapId :: basicInfoAttributes ⊆ answered Clusters.basicInformation ++
      DataModel.enabled kEp0 Clusters.basicInformation := by decide
  have hlisted : a ∈ kFeatureMapId :: basicInfoAttributes →
      a ∈ basicInfoAttributes ∨ Forgotten Clusters.basicInformation a := fun h =>
    (List.mem_cons.1 h).symm.imp_right fun hmap => ⟨rfl, Or.inl hmap⟩
  constructor
  · rintro (h | h | ⟨-, -, h⟩)
    · exact hlisted (hfrom (List.mem_append_left _ h))
    · exact hlisted (hfrom (List.mem_append_right _ h))
    · exact Or.inr ⟨rfl, Or.inr h⟩
  · rintro (h | ⟨-, rfl | h⟩)
    · exact (List.mem_append.1 (hto (List.mem_cons_of_mem _ h))).imp_right Or.inl
    · exact (List.mem_append.1 (hto List.mem_cons_self)).imp_right Or.inl
    · exact Or.inr (Or.inr ⟨rfl, rfl, h⟩)

/-- What is forgotten is not listed. -/
theorem notMem_of_forgotten (h : Forgotten Clusters.basicInformation a) :
    a ∉ basicInfoAttributes := by
  have hopt : DataModel.optionalAttributes.filter (· ∈ basicInfoAttributes) = [] := by decide
  rcases h.2 with rfl | h
  · decide
  · intro ha
    exact List.filter_eq_nil_iff.1 hopt a h (decide_eq_true ha)

/-- **The attribute lists tell the truth** of every id but those that
Basic Information's forgets. -/
theorem listed_iff_yields_iff (env : OverrideEnv) : ∀ i ∈ overrides env, ∀ endpoint,
    i.mEndpointId = some endpoint → ∀ items,
    i.read ⟨endpoint, i.mClusterId, kAttributeListId⟩ = .value (.list items) → ∀ a,
      ((ListItem.uint32 a ∈ items ↔ Yields i endpoint a) ↔ ¬ Forgotten i.mClusterId a) := by
  have key : ∀ {i : AttributeAccessInterface} {endpoint : EndpointId} {ids : List AttributeId},
      i.mClusterId ≠ Clusters.basicInformation →
      i.read ⟨endpoint, i.mClusterId, kAttributeListId⟩ = .value (.list (ids.map .uint32)) →
      (∀ a, Yields i endpoint a ↔ a ∈ ids) → ∀ items,
      i.read ⟨endpoint, i.mClusterId, kAttributeListId⟩ = .value (.list items) → ∀ a,
        ((ListItem.uint32 a ∈ items ↔ Yields i endpoint a) ↔ ¬ Forgotten i.mClusterId a) := by
    intro i endpoint ids hne hread hyields items hitems a
    obtain rfl : ids.map ListItem.uint32 = items := by
      rw [hread] at hitems
      cases hitems
      rfl
    exact iff_of_true (uint32_mem_map.trans (hyields a).symm) fun hf => hne hf.1
  refine forall_overrides ?_ ?_ ?_ ?_ ?_ ?_ ?_
  · rintro _ ⟨⟩
    exact @key (timeSyncDelegate env.timeSync) kRootEndpoint timeSyncAttributes
      (show Clusters.timeSynchronization ≠ Clusters.basicInformation by decide) rfl
      fun a => timeSync_yields_iff
  · rintro _ ⟨⟩ items hitems
    cases hitems
  · rintro _ ⟨⟩ items hitems a
    obtain rfl : basicInfoAttributes.map ListItem.uint32 = items := by
      cases hitems
      rfl
    rw [uint32_mem_map, show Yields _ _ a ↔ _ from basicInfo_yields_iff, basicInfo_listed_iff]
    exact ⟨fun h hf => notMem_of_forgotten hf (h.2 (Or.inr hf)),
      fun hnf => ⟨Or.inl, fun h => h.resolve_right hnf⟩⟩
  · rintro e he _ ⟨⟩
    exact @key (attrListSanitizer env e Clusters.descriptor) e descriptorAttributes
      (show Clusters.descriptor ≠ Clusters.basicInformation by decide)
      (sanitizer_read_descriptor.trans rfl)
      fun a => descriptor_yields_iff he
  · rintro _ ⟨⟩
    exact @key (attrListSanitizer env kEp0 Clusters.icdManagement) kEp0 icdAttributes
      (show Clusters.icdManagement ≠ Clusters.basicInformation by decide) rfl
      fun a => icd_yields_iff
  · rintro _ ⟨⟩ items hitems
    cases hitems
  · rintro _ ⟨⟩ items hitems
    cases hitems

/-- **A list that does not**: Basic Information's feature map is served and
not listed. -/
theorem featureMap_not_listed :
    ¬ ∀ (env : OverrideEnv), ∀ i ∈ overrides env, ∀ endpoint, i.mEndpointId = some endpoint →
      ∀ items, i.read ⟨endpoint, i.mClusterId, kAttributeListId⟩ = .value (.list items) → ∀ a,
        (ListItem.uint32 a ∈ items ↔ Yields i endpoint a) := by
  intro hall
  have hmem : attrListSanitizer OverrideEnv.fresh kEp0 Clusters.basicInformation ∈
      overrides OverrideEnv.fresh := by simp [overrides]
  have h := hall OverrideEnv.fresh _ hmem kEp0 rfl _ rfl kFeatureMapId
  rw [uint32_mem_map, show Yields _ _ _ ↔ _ from basicInfo_yields_iff] at h
  exact absurd (h.2 (Or.inr (by decide))) (by decide)

/-- Descriptor's feature map on the soil endpoint. -/
theorem listed_iff_yields_descriptor :
    ListItem.uint32 kFeatureMapId ∈ descriptorAttributes.map ListItem.uint32 ↔
      Yields (attrListSanitizer OverrideEnv.fresh kSoilEndpoint Clusters.descriptor)
        kSoilEndpoint kFeatureMapId := by
  have hmem : attrListSanitizer OverrideEnv.fresh kSoilEndpoint Clusters.descriptor ∈
      overrides OverrideEnv.fresh := by simp [overrides, OverrideEnv.fresh]
  refine (listed_iff_yields_iff OverrideEnv.fresh _ hmem kSoilEndpoint rfl _
    (sanitizer_read_descriptor.trans rfl) kFeatureMapId).2 ?_
  exact fun hf => absurd hf.1 (show Clusters.descriptor ≠ Clusters.basicInformation by decide)

end SoilSensor
