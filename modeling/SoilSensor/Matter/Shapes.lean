import SoilSensor.Matter.Answers
import SoilSensor.Matter.Model.DataModel
/-!
# The shapes of the answers

The overrides write attribute ids and value types as literals, and the data
model declares them elsewhere. Override by override, each value that is
encoded has the shape declared for its id, with one exception: General
Diagnostics answers the id of its boot reason with the empty list of its
hardware faults. `encoded_fits_iff` says that it is the only one.
-/

namespace SoilSensor

open AttrListSanitizer

/-- **The definition declares the attribute**, with a shape the value
has. -/
def Declares (decls : List AttributeDecl) (a : AttributeId) (v : Encoded) : Prop :=
  ∃ d ∈ decls, d.id = a ∧ v.Fits d

variable {mgr : ConfigurationMgr} {soil : Bool} {endpoint : EndpointId} {cluster : ClusterId}
variable {a : AttributeId} {v : Encoded} {d : AttributeDecl}

/-! ## Values and declarations -/

/-- A list of 32-bit ids, where one is declared. -/
theorem fits_uint32s {ids : List UInt32} (hlist : d.isList) (htype : d.type.holdsUnsigned 32) :
    (Encoded.list (ids.map .uint32)).Fits d := by
  refine ⟨hlist, fun item hitem => ?_⟩
  obtain ⟨id, -, rfl⟩ := List.mem_map.1 hitem
  exact htype

/-- The empty list, where any is declared. -/
theorem fits_nil (hlist : d.isList) : (Encoded.list []).Fits d :=
  ⟨hlist, fun _ h => absurd h List.not_mem_nil⟩

/-! ## Override by override -/

theorem basicInfo_declares (h : readBasicInfo mgr a = .value v) :
    Declares DataModel.basicInformation a v := by
  have ha : a ∈ answered Clusters.basicInformation := by
    by_contra hn
    rw [readBasicInfo_of_notMem hn] at h
    cases h
  change a ∈ [kBasicInfoUniqueId, kBasicInfoConfigurationVersion, kAttributeListId] at ha
  simp only [List.mem_cons, List.not_mem_nil, or_false] at ha
  rcases ha with rfl | rfl | rfl
  · -- stored or not, the unique id is a string
    have hv : ∃ s, v = .charString s := by
      rw [readBasicInfo, if_pos rfl] at h
      split at h
      · split_ifs at h <;> cases h <;> exact ⟨_, rfl⟩
      · cases h
        exact ⟨_, rfl⟩
    obtain ⟨s, rfl⟩ := hv
    exact ⟨⟨18, .charString 32, false⟩, by decide, rfl, rfl, 32, rfl⟩
  · have hv : ∃ version, v = .uint32 version := by
      rw [readBasicInfo, if_neg (by decide), if_pos rfl] at h
      split at h <;> cases h <;> exact ⟨_, rfl⟩
    obtain ⟨version, rfl⟩ := hv
    exact ⟨⟨24, .unsigned 32, false⟩, by decide, rfl, rfl, Nat.le_refl 32⟩
  · cases h
    exact ⟨⟨65531, .unsigned 32, true⟩, by decide, rfl, fits_uint32s rfl (Nat.le_refl 32)⟩

theorem descriptor_declares (he : endpoint = kEp0 ∨ endpoint = kSoilEndpoint)
    (h : readDescriptor soil endpoint a = .value v) : Declares DataModel.descriptor a v := by
  have ha : a ∈ descriptorAttributes := by
    by_contra hn
    rw [readDescriptor_of_notMem hn] at h
    cases h
  simp only [descriptorAttributes, List.mem_cons, List.not_mem_nil, or_false] at ha
  rcases ha with rfl | rfl | rfl | rfl | rfl | rfl | rfl | rfl | rfl
  · refine ⟨⟨0, .struct .deviceTypeStruct, true⟩, by decide, rfl, ?_⟩
    rcases he with rfl | rfl
    · cases h
      exact ⟨rfl, by simp [ListItem.Fits]⟩
    · cases h
      exact ⟨rfl, by simp [ListItem.Fits]⟩
  · refine ⟨⟨1, .unsigned 32, true⟩, by decide, rfl, ?_⟩
    rcases he with rfl | rfl
    · cases h
      exact fits_uint32s rfl (Nat.le_refl 32)
    · cases h
      exact fits_uint32s rfl (Nat.le_refl 32)
  · cases h
    exact ⟨⟨2, .unsigned 32, true⟩, by decide, rfl, fits_nil rfl⟩
  · -- the parts are endpoints, of 16 bits
    refine ⟨⟨3, .unsigned 16, true⟩, by decide, rfl, ?_⟩
    rcases he with rfl | rfl
    · cases soil with
      | true =>
        cases h
        exact ⟨rfl, by simp [kRootPartsList, ListItem.Fits, DataType.holdsUnsigned]⟩
      | false =>
        cases h
        exact fits_nil rfl
    · cases h
      exact fits_nil rfl
  · cases h
    exact ⟨⟨65528, .unsigned 32, true⟩, by decide, rfl, fits_nil rfl⟩
  · cases h
    exact ⟨⟨65529, .unsigned 32, true⟩, by decide, rfl, fits_nil rfl⟩
  · cases h
    exact ⟨⟨65531, .unsigned 32, true⟩, by decide, rfl, fits_uint32s rfl (Nat.le_refl 32)⟩
  · cases h
    exact ⟨⟨65532, .bitmap 32, false⟩, by decide, rfl, rfl, Nat.le_refl 32⟩
  · cases h
    exact ⟨⟨65533, .unsigned 16, false⟩, by decide, rfl, rfl, Nat.le_refl 16⟩

/-- **General Diagnostics declares what is encoded except at one id**,
where it declares an enumeration and no list. -/
theorem genDiag_declares_iff
    (h : GenDiagAttrAccess.read ⟨endpoint, cluster, a⟩ = .value v) :
    Declares DataModel.generalDiagnostics a v ↔
      a ≠ GenDiagAttrAccess.kActiveHardwareFaults := by
  have ha : a ∈ answered Clusters.generalDiagnostics := by
    by_contra hn
    rw [genDiag_read_of_notMem hn] at h
    cases h
  change a ∈ [GenDiagAttrAccess.kBootReason, GenDiagAttrAccess.kActiveHardwareFaults] at ha
  simp only [List.mem_cons, List.not_mem_nil, or_false] at ha
  rcases ha with rfl | rfl
  · cases h
    refine iff_of_true ⟨⟨3, .unsigned 32, false⟩, by decide, rfl, rfl, ?_⟩ (by decide)
    exact (by decide : 8 ≤ 32)
  · cases h
    refine iff_of_false ?_ (not_not.2 rfl)
    rintro ⟨d, hd, hid, hlist, -⟩
    have hdecl : ∀ d ∈ DataModel.generalDiagnostics,
        d.id = GenDiagAttrAccess.kActiveHardwareFaults → d.isList = false := by decide
    rw [hdecl d hd hid] at hlist
    cases hlist

/-- A cluster revision, of 16 bits, is declared by each definition. -/
theorem revision_declares {decls : List AttributeDecl} {revision : UInt16}
    (hd : (⟨65533, .unsigned 16, false⟩ : AttributeDecl) ∈ decls)
    (h : (if a = kClusterRevisionId then ReadAnswer.value (.uint16 revision)
      else .error .noError) = .value v) : Declares decls a v := by
  split_ifs at h with ha
  cases h
  exact ⟨_, hd, ha.symm, rfl, Nat.le_refl 16⟩

/-! ## All of them -/

/-- **The overrides speak the declared data model** but for one attribute:
every value one encodes, on a cluster the file defines, has the shape that
is declared for its id, except for attribute 4 of General Diagnostics. -/
theorem encoded_fits_iff (env : OverrideEnv) : ∀ i ∈ overrides env, ∀ decls,
    DataModel.declared i.mClusterId = some decls → ∀ endpoint, i.mEndpointId = some endpoint →
    ∀ a v, i.read ⟨endpoint, i.mClusterId, a⟩ = .value v →
      (Declares decls a v ↔ ¬ (i.mClusterId = Clusters.generalDiagnostics ∧ a = 0x0004)) := by
  have key : ∀ (c : ClusterId) {decls : List AttributeDecl} {a : AttributeId} {v : Encoded},
      c ≠ Clusters.generalDiagnostics → Declares decls a v →
      (Declares decls a v ↔ ¬ (c = Clusters.generalDiagnostics ∧ a = 0x0004)) :=
    fun c _ _ _ hc hd => iff_of_true hd fun h => hc h.1
  refine forall_overrides ?_ ?_ ?_ ?_ ?_ ?_ ?_
  · rintro decls ⟨⟩
  · rintro decls ⟨⟩ _ ⟨⟩ a v h
    rw [genDiag_declares_iff h]
    exact ⟨fun hne hc => hne hc.2, fun hnot ha => hnot ⟨rfl, ha⟩⟩
  · rintro decls ⟨⟩ _ ⟨⟩ a v h
    exact key Clusters.basicInformation (by decide) (basicInfo_declares h)
  · rintro e he decls ⟨⟩ _ ⟨⟩ a v h
    exact key Clusters.descriptor (by decide)
      (descriptor_declares he (sanitizer_read_descriptor.symm.trans h))
  · rintro decls ⟨⟩
  · rintro decls ⟨⟩ _ ⟨⟩ a v h
    exact key Clusters.identify (by decide) (revision_declares (by decide) h)
  · rintro decls ⟨⟩ _ ⟨⟩ a v h
    exact key Clusters.groupKeyManagement (by decide) (revision_declares (by decide) h)

/-- **The boot reason is answered with a list.** -/
theorem bootReason_not_fits :
    ¬ ∀ (env : OverrideEnv), ∀ i ∈ overrides env, ∀ decls,
      DataModel.declared i.mClusterId = some decls → ∀ endpoint, i.mEndpointId = some endpoint →
      ∀ a v, i.read ⟨endpoint, i.mClusterId, a⟩ = .value v → Declares decls a v := by
  intro hall
  have hmem : genDiagAttrAccess ∈ overrides OverrideEnv.fresh := by simp [overrides]
  have h := hall OverrideEnv.fresh _ hmem _ rfl kEp0 rfl 0x0004 (.list []) rfl
  exact (@genDiag_declares_iff kEp0 Clusters.generalDiagnostics _ _ rfl).1 h rfl

/-- The feature map of Descriptor is answered with the 32 bits declared. -/
theorem encoded_fits_featureMap : Declares DataModel.descriptor kFeatureMapId (.uint32 0) := by
  have hmem : attrListSanitizer OverrideEnv.fresh kEp0 Clusters.descriptor ∈
      overrides OverrideEnv.fresh := by simp [overrides]
  refine (encoded_fits_iff OverrideEnv.fresh _ hmem _ rfl kEp0 rfl kFeatureMapId _ ?_).2 ?_
  · exact sanitizer_read_descriptor.trans rfl
  · exact fun h => absurd h.1 (show Clusters.descriptor ≠ Clusters.generalDiagnostics by decide)

end SoilSensor
