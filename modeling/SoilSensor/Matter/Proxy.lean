import SoilSensor.Matter.Model.Provider
/-!
# The metadata filter

`MetadataFilter` stands in front of another provider and hands every call
on. It answers one read itself, and on Basic Information's attributes it
takes the list it is given apart and puts it together again. Where the
memory for that is granted nothing shows of it
(`transcript_metadataFilter`); where it is refused the list is lost
(`entries_kept_iff`).
-/

namespace SoilSensor

/-! ## Sequences of calls -/

section Transcript

variable {ι ω σ : Type*} {f g : ι → σ → ω × σ} {P : ι → σ → Prop} {calls : List ι} {s : σ}

/-- **What is seen of calls made one after another**: each response, and
the state it leaves. -/
def transcript (f : ι → σ → ω × σ) : List ι → σ → List (ω × σ)
  | [], _ => []
  | c :: calls, s => f c s :: transcript f calls (f c s).2

/-- Something holds of every call, in the state it is made in. -/
def Along (P : ι → σ → Prop) (f : ι → σ → ω × σ) : List ι → σ → Prop
  | [], _ => True
  | c :: calls, s => P c s ∧ Along P f calls (f c s).2

/-- Calls that end alike are seen alike. -/
theorem transcript_congr (h : Along P f calls s) (hfg : ∀ c ∈ calls, ∀ s, P c s → f c s = g c s) :
    transcript f calls s = transcript g calls s := by
  induction calls generalizing s with
  | nil => rfl
  | cons c calls ih =>
    have hc : f c s = g c s := hfg c List.mem_cons_self s h.1
    have hrest := ih h.2 fun d hd => hfg d (List.mem_cons_of_mem _ hd)
    rw [transcript, transcript, hrest, hc]

end Transcript

/-! ## The attributes -/

variable {T : ProviderTypes} {σ : Type} {B : BuilderOps T} {mInner : Provider T σ}
variable {encode : Encoded → T.AttributeValueEncoder → ChipError × T.AttributeValueEncoder}
variable {path : ConcreteClusterPath} {s : σ}
variable {builder : T.ReadOnlyBufferBuilder (AttributeEntry T)}

/-- **The memory to put a list together again is refused.** -/
def Refused (B : BuilderOps T) (builder : T.ReadOnlyBufferBuilder (AttributeEntry T)) : Prop :=
  ∃ entries, ((B _).take builder).1 = some entries ∧
    ((B _).reserve entries.length ((B _).take builder).2).1 ≠ .noError

namespace MetadataFilter

/-- Nothing is filtered. -/
theorem filter_unfiltered (entries : List (AttributeEntry T)) : entries.filter (fun entry =>
    !shouldFilter path.mEndpointId path.mClusterId entry.attributeId) = entries :=
  List.filter_eq_self.2 fun _ _ => rfl

/-- Away from Basic Information, and after an error, what the other
provider returns is returned. -/
theorem attributes_eq (h : (mInner.attributes path builder s).1.1 = .noError →
    path ≠ ⟨0, Clusters.basicInformation⟩) :
    attributes B mInner path builder s = mInner.attributes path builder s := by
  by_cases herr : (mInner.attributes path builder s).1.1 = .noError
  · have hpath : path.mEndpointId ≠ kRootEndpoint ∨
        path.mClusterId ≠ kBasicInformationClusterId := by
      by_contra hc
      obtain ⟨he, hcl⟩ := not_or.1 hc
      exact h herr (congrArg₂ ConcreteClusterPath.mk (not_not.1 he) (not_not.1 hcl))
    rw [attributes]
    simp only [ne_eq, herr, not_true_eq_false, if_false, if_pos hpath]
    rw [← herr]
  · rw [attributes]
    simp only [ne_eq, herr, not_false_eq_true, if_true]

/-- On Basic Information's, after a success, the list is taken apart. -/
theorem attributes_root (hok : (mInner.attributes path builder s).1.1 = .noError)
    (hpath : path = ⟨0, Clusters.basicInformation⟩) :
    attributes B mInner path builder s =
      (rebuild B path (mInner.attributes path builder s).1.2,
        (mInner.attributes path builder s).2) := by
  subst hpath
  rw [attributes]
  simp only [hok, ne_eq, not_true_eq_false, if_false, kRootEndpoint, kBasicInformationClusterId,
    or_self]

theorem rebuild_of_none (h : ((B _).take builder).1 = none) :
    rebuild B path builder = (.noError, ((B _).take builder).2) := by
  have htake : (B _).take builder = (none, ((B _).take builder).2) := Prod.ext h rfl
  rw [rebuild, htake]

theorem rebuild_of_some {entries : List (AttributeEntry T)}
    (h : ((B _).take builder).1 = some entries) : rebuild B path builder =
      if ((B _).reserve entries.length ((B _).take builder).2).1 ≠ .noError then
        (B _).reserve entries.length ((B _).take builder).2
      else appendUnfiltered B path entries
        ((B _).reserve entries.length ((B _).take builder).2).2 := by
  have htake : (B _).take builder = (some entries, ((B _).take builder).2) := Prod.ext h rfl
  rw [rebuild, htake]

/-- **Granted, the list is the same**, entry by entry. -/
theorem rebuild_of_granted (path : ConcreteClusterPath) (h : ¬ Refused B builder) :
    (rebuild B path builder).1 = .noError ∧
      (B _).content (rebuild B path builder).2 = (B _).content builder := by
  cases htake : ((B _).take builder).1 with
  | none =>
    rw [rebuild_of_none htake, ListBuilder.content_of_take_eq_none htake]
    exact ⟨rfl, (B _).content_take builder⟩
  | some entries =>
    have hok : ((B _).reserve entries.length ((B _).take builder).2).1 = .noError := by
      by_contra hc
      exact h ⟨entries, htake, hc⟩
    have hroom := (B _).room_reserve _ _ hok
    obtain ⟨hall, hcontent⟩ : (appendUnfiltered B path entries _).1 = .noError ∧ _ :=
      ListBuilder.appendWhere_of_room hroom (Nat.le_refl _)
    rw [rebuild_of_some htake, if_neg (not_not.2 hok)]
    refine ⟨hall, hcontent.trans ?_⟩
    rw [(B _).content_reserve, (B _).content_take, List.nil_append, filter_unfiltered,
      ListBuilder.take_eq_some htake]

/-- **Refused, it is gone.** -/
theorem rebuild_of_refused (path : ConcreteClusterPath) (h : Refused B builder) :
    (rebuild B path builder).1 ≠ .noError ∧
      (B _).content (rebuild B path builder).2 = [] := by
  obtain ⟨entries, htake, hno⟩ := h
  rw [rebuild_of_some htake, if_pos hno]
  exact ⟨hno, ((B _).content_reserve _ _).trans ((B _).content_take builder)⟩

end MetadataFilter

/-! ## The whole interface -/

/-- The read it answers itself. -/
def MetadataFilter.gkmRevision : ConcreteAttributePath :=
  ⟨0, Clusters.groupKeyManagement, kClusterRevisionId⟩

/-- **What a call should come to**: what the other provider makes of it, but
for the one read, which encodes 2 or returns the encoder's error. -/
def expected (B : BuilderOps T)
    (encode : Encoded → T.AttributeValueEncoder → ChipError × T.AttributeValueEncoder)
    (mInner : Provider T σ) : ProviderCall T → σ → ProviderResponse T × σ
  | .readAttribute request encoder, s =>
    if request.path = MetadataFilter.gkmRevision then
      match encode (.uint16 2) encoder with
      | (.noError, encoder) => (.read (.status .success) encoder, s)
      | (err, encoder) => (.read (.error err) encoder, s)
    else mInner.call B (.readAttribute request encoder) s
  | c, s => mInner.call B c s

/-- The memory a call needs is granted. -/
def Granted (B : BuilderOps T) (mInner : Provider T σ) : ProviderCall T → σ → Prop
  | .attributes path builder, s =>
    path = ⟨0, Clusters.basicInformation⟩ → (mInner.attributes path builder s).1.1 = .noError →
      ¬ Refused B (mInner.attributes path builder s).1.2
  | _, _ => True

/-- **Attributes come through**: the same result, the same entries and the
same state. -/
theorem built_attributes (h : Granted B mInner (.attributes path builder) s) :
    built B (MetadataFilter.attributes B mInner path builder s) =
      built B (mInner.attributes path builder s) := by
  by_cases hroot : (mInner.attributes path builder s).1.1 = .noError →
      path ≠ ⟨0, Clusters.basicInformation⟩
  · rw [MetadataFilter.attributes_eq hroot]
  · obtain ⟨hok, hpath⟩ := Classical.not_imp.1 hroot
    obtain ⟨hend, hcontent⟩ := MetadataFilter.rebuild_of_granted path
      (h (not_not.1 hpath) hok)
    rw [MetadataFilter.attributes_root hok (not_not.1 hpath), built, built, hend, hcontent, hok]

/-- **A call comes to what it should.** -/
theorem call_metadataFilter {c : ProviderCall T} (h : Granted B mInner c s) :
    (metadataFilter B encode mInner).call B c s = expected B encode mInner c s := by
  cases c with
  | attributes path builder => exact built_attributes h
  | readAttribute request encoder =>
    have hpath : (request.path.mEndpointId = MetadataFilter.kGroupKeyMgmtEndpoint ∧
        request.path.mClusterId = MetadataFilter.kGroupKeyMgmtCluster ∧
        request.path.mAttributeId = kClusterRevisionId) ↔
          request.path = MetadataFilter.gkmRevision := by
      rw [ConcreteAttributePath.mk.injEq]
      rfl
    by_cases hread : request.path = MetadataFilter.gkmRevision
    · rw [expected, if_pos hread]
      simp only [Provider.call, metadataFilter, MetadataFilter.readAttribute,
        if_pos (hpath.2 hread)]
      cases henc : encode (.uint16 2) encoder with
      | mk err encoder => cases err <;> rfl
    · rw [expected, if_neg hread]
      simp only [Provider.call, metadataFilter, MetadataFilter.readAttribute,
        if_neg fun h => hread (hpath.1 h)]
  | _ => rfl

/-- **The filter is transparent** but for the one read. -/
theorem transcript_metadataFilter {T : ProviderTypes} {σ : Type} (B : BuilderOps T)
    (encode : Encoded → T.AttributeValueEncoder → ChipError × T.AttributeValueEncoder)
    (mInner : Provider T σ) (calls : List (ProviderCall T)) (s : σ)
    (h : Along (Granted B mInner) ((metadataFilter B encode mInner).call B) calls s) :
    transcript ((metadataFilter B encode mInner).call B) calls s =
        transcript (expected B encode mInner) calls s ∧
      ((∀ request encoder, .readAttribute request encoder ∈ calls →
          request.path ≠ MetadataFilter.gkmRevision) →
        transcript ((metadataFilter B encode mInner).call B) calls s =
          transcript (mInner.call B) calls s) := by
  have hexpected : ∀ c ∈ calls, ∀ s, Granted B mInner c s →
      (metadataFilter B encode mInner).call B c s = expected B encode mInner c s :=
    fun c _ s hc => call_metadataFilter hc
  refine ⟨transcript_congr h hexpected, fun hnone => transcript_congr h fun c hc s hg => ?_⟩
  refine (hexpected c hc s hg).trans ?_
  cases c with
  | readAttribute request encoder => exact if_neg (hnone request encoder hc)
  | _ => rfl

/-! A provider of one list, whose builders are on a heap, for the runs on
fixed inputs. -/

/-- The interface with nothing to look into but the lists. -/
abbrev ProviderTypes.plain : ProviderTypes where
  InteractionModelContext := Unit
  ReadRequest := Unit
  AttributeValueEncoder := Option Encoded
  WriteAttributeRequest := Unit
  AttributeValueDecoder := Unit
  ListWriteOperation := Unit
  InvokeRequest := Unit
  TLVReader := Unit
  CommandHandler := Unit
  ReadOnlyBufferBuilder := HeapBuffer
  EndpointEntry := Unit
  SemanticTag := Unit
  DeviceTypeEntry := Unit
  ServerClusterEntry := Unit
  AcceptedCommandEntry := Unit
  AttributeFlags := Unit
  ConcreteEventPath := Unit
  EventEntry := Unit
  MutableCharSpan := Unit
  AttributePathParams := Unit

/-- Builders whose errors are `CHIP_ERROR_NO_MEMORY` and
`CHIP_ERROR_BUFFER_TOO_SMALL`. -/
def BuilderOps.heap : BuilderOps ProviderTypes.plain := fun _ =>
  HeapBuffer.builder ChipError.noError (.other 0x0b) (.other 0x19) (by decide)

/-- The entry of the feature map. -/
def featureMapEntry : AttributeEntry ProviderTypes.plain := ⟨kFeatureMapId, ()⟩

/-- A provider that lists the feature map, if it has room for it. -/
def Provider.listing : Provider ProviderTypes.plain ℕ where
  startup _ s := (.noError, s)
  shutdown s := (.noError, s)
  readAttribute _ encoder s := ((.status .success, encoder), s + 1)
  writeAttribute _ decoder s := ((.status .unsupportedWrite, decoder), s)
  listAttributeWriteNotification _ _ s := s
  invokeCommand _ reader handler s := ((none, reader, handler), s)
  endpoints builder s := ((.noError, builder), s)
  semanticTags _ builder s := ((.noError, builder), s)
  deviceTypes _ builder s := ((.noError, builder), s)
  clientClusters _ builder s := ((.noError, builder), s)
  serverClusters _ builder s := ((.noError, builder), s)
  eventInfo _ entry s := ((.noError, entry), s)
  endpointUniqueID _ span s := ((.noError, span), s)
  attributes _ builder s :=
    ((BuilderOps.heap _).appendWhere (fun _ => true) [featureMapEntry]
      ((BuilderOps.heap _).reserve 1 builder).2, s)
  generatedCommands _ builder s := ((.noError, builder), s)
  acceptedCommands _ builder s := ((.noError, builder), s)
  temporaryReportAttributeChanged _ s := s

/-- What the encoder of the runs does. -/
def encodePlain (value : Encoded) (_ : Option Encoded) : ChipError × Option Encoded :=
  (.noError, some value)

/-- With memory to spare Basic Information's list comes through, and the
revision is read as 2. -/
theorem transcript_metadataFilter_listing :
    transcript ((metadataFilter BuilderOps.heap encodePlain Provider.listing).call BuilderOps.heap)
      [.attributes ⟨0, Clusters.basicInformation⟩ (HeapBuffer.empty 8),
        .readAttribute ⟨MetadataFilter.gkmRevision, ()⟩ none] 0 =
      [(.built _ .noError [featureMapEntry], 0),
        (.read (.status .success) (some (.uint16 2)), 0)] := by
  refine (transcript_metadataFilter BuilderOps.heap encodePlain Provider.listing _ 0 ?_).1.trans rfl
  refine ⟨fun _ _ => ?_, trivial, trivial⟩
  rintro ⟨entries, htake, hno⟩
  obtain rfl : [featureMapEntry] = entries := Option.some.inj htake
  exact hno rfl

/-- **A list is lost exactly where** it is Basic Information's, the other
provider succeeded and left an entry, and the memory is refused. -/
theorem entries_kept_iff {T : ProviderTypes} {σ : Type} (B : BuilderOps T)
    (mInner : Provider T σ) (path : ConcreteClusterPath)
    (builder : T.ReadOnlyBufferBuilder (AttributeEntry T)) (s : σ) :
    ((mInner.attributes path builder s).1.1 = .noError →
      (MetadataFilter.attributes B mInner path builder s).1.1 ≠ .noError →
      (B _).content (MetadataFilter.attributes B mInner path builder s).1.2 =
        (B _).content (mInner.attributes path builder s).1.2) ↔
      ¬ (path = ⟨0, Clusters.basicInformation⟩ ∧
        (mInner.attributes path builder s).1.1 = .noError ∧
        (B _).content (mInner.attributes path builder s).1.2 ≠ [] ∧
        Refused B (mInner.attributes path builder s).1.2) := by
  constructor
  · rintro hkept ⟨hpath, hok, hne, hrefused⟩
    obtain ⟨herr, hgone⟩ := MetadataFilter.rebuild_of_refused path hrefused
    rw [MetadataFilter.attributes_root hok hpath, hgone] at hkept
    exact hne (hkept hok herr).symm
  · intro hnot hok herr
    by_cases hpath : path = ⟨0, Clusters.basicInformation⟩
    · rw [MetadataFilter.attributes_root hok hpath] at herr ⊢
      by_cases hrefused : Refused B (mInner.attributes path builder s).1.2
      · have hempty : (B _).content (mInner.attributes path builder s).1.2 = [] := by
          by_contra hne
          exact hnot ⟨hpath, hok, hne, hrefused⟩
        rw [hempty]
        exact (MetadataFilter.rebuild_of_refused path hrefused).2
      · exact absurd (MetadataFilter.rebuild_of_granted path hrefused).1 herr
    · rw [MetadataFilter.attributes_eq fun _ => hpath]

/-- **A list that is lost**: one entry, and a heap without memory for a
second. -/
theorem entries_lost :
    ¬ ∀ (T : ProviderTypes) (σ : Type) (B : BuilderOps T) (mInner : Provider T σ)
      (path : ConcreteClusterPath) (builder : T.ReadOnlyBufferBuilder (AttributeEntry T)) (s : σ),
      (mInner.attributes path builder s).1.1 = .noError →
        (MetadataFilter.attributes B mInner path builder s).1.1 ≠ .noError →
        (B _).content (MetadataFilter.attributes B mInner path builder s).1.2 =
          (B _).content (mInner.attributes path builder s).1.2 := by
  intro hall
  have hkept := hall ProviderTypes.plain ℕ BuilderOps.heap Provider.listing
    ⟨0, Clusters.basicInformation⟩ (HeapBuffer.empty 1) 0 rfl (by decide)
  have hlen := congrArg List.length hkept
  exact absurd hlen (by decide)

end SoilSensor
