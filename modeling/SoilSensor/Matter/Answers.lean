import SoilSensor.Matter.Model.Overrides
/-!
# What the overrides answer

Each override is asked for every attribute of its cluster on its endpoint
and answers some; for the others it returns `CHIP_NO_ERROR` and leaves the
read to the data model. `answered` lists the attributes by cluster, and
`read_eq_noError_iff` says that an override answers those and no others. The
time synchronization delegate is apart: it leaves nothing to the data model.
-/

namespace SoilSensor

open AttrListSanitizer

/-- **The attributes of a cluster that its override answers.** -/
def answered (cluster : ClusterId) : List AttributeId :=
  if cluster = Clusters.basicInformation then
    [kBasicInfoUniqueId, kBasicInfoConfigurationVersion, kAttributeListId]
  else if cluster = Clusters.descriptor then descriptorAttributes
  else if cluster = Clusters.icdManagement then
    icdAttributes ++ [kIcdRegisteredClients, kIcdIcdCounter]
  else if cluster = Clusters.generalDiagnostics then
    [GenDiagAttrAccess.kBootReason, GenDiagAttrAccess.kActiveHardwareFaults]
  else if cluster = Clusters.groupKeyManagement then [kClusterRevisionId]
  else if cluster = Clusters.identify then [kClusterRevisionId]
  else []

variable {mgr : ConfigurationMgr} {env : OverrideEnv} {soil : Bool}
variable {endpoint : EndpointId} {cluster : ClusterId} {a : AttributeId}
variable {i : AttributeAccessInterface}

/-! ## Branch by branch -/

theorem readBasicInfo_of_notMem (ha : a ∉ answered Clusters.basicInformation) :
    readBasicInfo mgr a = .error .noError := by
  change a ∉ [kBasicInfoUniqueId, kBasicInfoConfigurationVersion, kAttributeListId] at ha
  simp only [List.mem_cons, List.not_mem_nil, or_false, not_or] at ha
  obtain ⟨h₁, h₂, h₃⟩ := ha
  rw [readBasicInfo, if_neg h₁, if_neg h₂, if_neg h₃]

theorem readBasicInfo_of_mem (ha : a ∈ answered Clusters.basicInformation) :
    ∃ v, readBasicInfo mgr a = .value v := by
  change a ∈ [kBasicInfoUniqueId, kBasicInfoConfigurationVersion, kAttributeListId] at ha
  simp only [List.mem_cons, List.not_mem_nil, or_false] at ha
  rcases ha with rfl | rfl | rfl
  · rw [readBasicInfo, if_pos rfl]
    split
    · split_ifs <;> exact ⟨_, rfl⟩
    · exact ⟨_, rfl⟩
  · rw [readBasicInfo, if_neg (by decide), if_pos rfl]
    split <;> exact ⟨_, rfl⟩
  · exact ⟨_, rfl⟩

theorem readDescriptor_of_notMem (ha : a ∉ descriptorAttributes) :
    readDescriptor soil endpoint a = .error .noError := by
  simp only [descriptorAttributes, List.mem_cons, List.not_mem_nil, or_false, not_or] at ha
  obtain ⟨h₁, h₂, h₃, h₄, h₅, h₆, h₇, h₈, h₉⟩ := ha
  simp only [readDescriptor, h₁, h₂, h₃, h₄, h₅, h₆, h₇, h₈, h₉, if_false, or_self]

theorem readDescriptor_of_mem (he : endpoint = kEp0 ∨ endpoint = kSoilEndpoint)
    (ha : a ∈ descriptorAttributes) : ∃ v, readDescriptor soil endpoint a = .value v := by
  simp only [descriptorAttributes, List.mem_cons, List.not_mem_nil, or_false] at ha
  rcases he with rfl | rfl <;>
  rcases ha with rfl | rfl | rfl | rfl | rfl | rfl | rfl | rfl | rfl <;>
  cases soil <;> exact ⟨_, rfl⟩

theorem readIcd_of_notMem (ha : a ∉ answered Clusters.icdManagement) :
    readIcd a = .error .noError := by
  change a ∉ icdAttributes ++ [kIcdRegisteredClients, kIcdIcdCounter] at ha
  simp only [icdAttributes, List.mem_append, List.mem_cons, List.not_mem_nil, or_false,
    not_or] at ha
  obtain ⟨⟨h₁, h₂, h₃, h₄, h₅, h₆, h₇, h₈⟩, h₉, h₁₀⟩ := ha
  simp only [readIcd, h₁, h₂, h₃, h₄, h₅, h₆, h₇, h₈, h₉, h₁₀, if_false, or_self]

theorem readIcd_of_mem (ha : a ∈ icdAttributes) : ∃ v, readIcd a = .value v := by
  simp only [icdAttributes, List.mem_cons, List.not_mem_nil, or_false] at ha
  rcases ha with rfl | rfl | rfl | rfl | rfl | rfl | rfl | rfl <;> exact ⟨_, rfl⟩

/-- The two attributes that are refused. -/
theorem readIcd_of_refused (ha : a ∈ [kIcdRegisteredClients, kIcdIcdCounter]) :
    readIcd a = .error (.imGlobalStatus .unsupportedAttribute) := by
  simp only [List.mem_cons, List.not_mem_nil, or_false] at ha
  rcases ha with rfl | rfl <;> rfl

theorem genDiag_read_of_notMem (ha : a ∉ answered Clusters.generalDiagnostics) :
    GenDiagAttrAccess.read ⟨endpoint, cluster, a⟩ = .error .noError := by
  change a ∉ [GenDiagAttrAccess.kBootReason, GenDiagAttrAccess.kActiveHardwareFaults] at ha
  simp only [List.mem_cons, List.not_mem_nil, or_false, not_or] at ha
  rw [GenDiagAttrAccess.read, if_neg ha.1, if_neg ha.2]

theorem genDiag_read_of_mem (ha : a ∈ answered Clusters.generalDiagnostics) :
    ∃ v, GenDiagAttrAccess.read ⟨endpoint, cluster, a⟩ = .value v := by
  change a ∈ [GenDiagAttrAccess.kBootReason, GenDiagAttrAccess.kActiveHardwareFaults] at ha
  simp only [List.mem_cons, List.not_mem_nil, or_false] at ha
  rcases ha with rfl | rfl <;> exact ⟨_, rfl⟩

/-! ## Interface by interface -/

/-- **The interfaces, by cases**: what holds of each of them holds of all
the application registers. -/
theorem forall_overrides {P : AttributeAccessInterface → Prop}
    (htime : P (timeSyncDelegate env.timeSync)) (hdiag : P genDiagAttrAccess)
    (hbasic : P (attrListSanitizer env kEp0 Clusters.basicInformation))
    (hdesc : ∀ e, e = kEp0 ∨ e = kSoilEndpoint → P (attrListSanitizer env e Clusters.descriptor))
    (hicd : P (attrListSanitizer env kEp0 Clusters.icdManagement))
    (hident : P (identifyRevisionOverride 1)) (hgkm : P gkmClusterRevisionOverride) :
    ∀ i ∈ overrides env, P i := by
  have hsoil : ∀ i ∈ (if env.soilEndpoint then
      [attrListSanitizer env kSoilEndpoint Clusters.descriptor] else []), P i := by
    split_ifs
    · simpa using hdesc kSoilEndpoint (Or.inr rfl)
    · simp
  intro i hi
  rcases List.mem_append.1 hi with hi | hi
  · rcases List.mem_append.1 hi with hi | hi
    · simp only [List.mem_cons, List.not_mem_nil, or_false] at hi
      rcases hi with rfl | rfl | rfl | rfl
      · exact htime
      · exact hdiag
      · exact hbasic
      · exact hdesc kEp0 (Or.inl rfl)
    · exact hsoil i hi
  · simp only [List.mem_cons, List.not_mem_nil, or_false] at hi
    rcases hi with rfl | rfl | rfl
    · exact hicd
    · exact hident
    · exact hgkm

/-- The delegate answers every attribute of the cluster. -/
theorem timeSync_read_ne_noError {s : TimeSync.State} :
    (timeSyncDelegate s).read ⟨kRootEndpoint, cluster, a⟩ ≠ .error .noError := by
  change (TimeSync.read ⟨kRootEndpoint, .ofId a⟩ s).answer ≠ .error .noError
  simp only [TimeSync.read, ne_eq, not_true_eq_false, if_false]
  cases TimeSync.AttributeId.ofId a with
  | utcTime => cases s.mUtcTime <;> exact ReadAnswer.noConfusion
  | _ => simp [TimeSync.ReadOutcome.answer]

theorem sanitizer_read_descriptor :
    (attrListSanitizer env endpoint Clusters.descriptor).read ⟨endpoint, Clusters.descriptor, a⟩ =
      readDescriptor env.soilEndpoint endpoint a := by
  change AttrListSanitizer.read _ _ _ _ = _
  rw [AttrListSanitizer.read, if_neg (by simp), if_neg (by decide), if_pos rfl]

/-- **An override leaves a read to the data model exactly for the
attributes it does not answer**, and the delegate leaves none. -/
theorem read_eq_noError_iff : ∀ i ∈ overrides env, ∀ endpoint, i.mEndpointId = some endpoint →
    ∀ a, i.read ⟨endpoint, i.mClusterId, a⟩ = .error .noError ↔
      i.mClusterId ≠ Clusters.timeSynchronization ∧ a ∉ answered i.mClusterId := by
  -- an answer that is a value, or a refusal, is none that leaves the read
  have key : ∀ (c : ClusterId) {answer : ReadAnswer} {a : AttributeId},
      c ≠ Clusters.timeSynchronization → (a ∉ answered c → answer = .error .noError) →
      (a ∈ answered c → answer ≠ .error .noError) →
      (answer = .error .noError ↔ c ≠ Clusters.timeSynchronization ∧ a ∉ answered c) :=
    fun c _ _ hc hnot hmem => ⟨fun h => ⟨hc, fun ha => hmem ha h⟩, fun h => hnot h.2⟩
  have hvalue : ∀ {answer : ReadAnswer}, (∃ v, answer = .value v) → answer ≠ .error .noError := by
    rintro _ ⟨v, rfl⟩
    exact ReadAnswer.noConfusion
  have hrevision : ∀ {read : AttributeId → ReadAnswer} {v : Encoded} {a : AttributeId},
      (read a = if a = kClusterRevisionId then .value v else .error .noError) →
      (a ∉ [kClusterRevisionId] → read a = .error .noError) ∧
        (a ∈ [kClusterRevisionId] → read a ≠ .error .noError) := by
    intro read v a h
    simp only [List.mem_singleton]
    constructor
    · intro ha
      rw [h, if_neg ha]
    · intro ha
      rw [h, if_pos ha]
      exact ReadAnswer.noConfusion
  refine forall_overrides ?_ ?_ ?_ ?_ ?_ ?_ ?_
  · rintro _ ⟨⟩ a
    exact iff_of_false timeSync_read_ne_noError fun h => h.1 rfl
  · rintro _ ⟨⟩ a
    exact key Clusters.generalDiagnostics (by decide) genDiag_read_of_notMem
      fun ha => hvalue (genDiag_read_of_mem ha)
  · rintro _ ⟨⟩ a
    exact key Clusters.basicInformation (by decide) readBasicInfo_of_notMem
      fun ha => hvalue (readBasicInfo_of_mem ha)
  · rintro e he _ ⟨⟩ a
    refine key Clusters.descriptor (by decide) (fun ha => ?_) fun ha => ?_
    · exact sanitizer_read_descriptor.trans (readDescriptor_of_notMem ha)
    · exact hvalue (sanitizer_read_descriptor ▸ readDescriptor_of_mem he ha)
  · rintro _ ⟨⟩ a
    refine key Clusters.icdManagement (by decide) readIcd_of_notMem fun ha h => ?_
    rcases List.mem_append.1 (show a ∈ icdAttributes ++ [kIcdRegisteredClients, kIcdIcdCounter]
      from ha) with ha | ha
    · exact hvalue (readIcd_of_mem ha) h
    · cases (readIcd_of_refused ha).symm.trans h
  · rintro _ ⟨⟩ a
    obtain ⟨hnot, hmem⟩ := @hrevision
      (fun a => (identifyRevisionOverride 1).read ⟨1, Clusters.identify, a⟩) _ a rfl
    exact key Clusters.identify (by decide) hnot hmem
  · rintro _ ⟨⟩ a
    obtain ⟨hnot, hmem⟩ := @hrevision
      (fun a => gkmClusterRevisionOverride.read ⟨0, Clusters.groupKeyManagement, a⟩) _ a rfl
    exact key Clusters.groupKeyManagement (by decide) hnot hmem

end SoilSensor
