import SoilSensor.Common.ListBuilder
import SoilSensor.Matter.Model.Attribute
/-!
# Model — data model providers

The interface the interaction model calls, one field for each method. What
a method is handed by reference it returns, and the state of a provider is
passed along. The types that a provider and its caller alone look into are
a parameter.

A call is a method with its arguments, and what can be seen of its end is a
response: the result, and what the arguments handed by reference hold then.
-/

namespace SoilSensor

/-- `ConcreteClusterPath`. -/
structure ConcreteClusterPath where
  mEndpointId : EndpointId
  mClusterId : ClusterId
  deriving DecidableEq

/-- `DataModel::ActionReturnStatus`. -/
inductive ActionReturnStatus
  | error (err : ChipError)
  | status (status : Status)
  | clusterStatus (status : Status) (code : UInt8)
  deriving DecidableEq

/-- **The types of the interface** that it hands through. -/
structure ProviderTypes where
  InteractionModelContext : Type
  /-- The rest of a `ReadAttributeRequest`. -/
  ReadRequest : Type
  AttributeValueEncoder : Type
  WriteAttributeRequest : Type
  AttributeValueDecoder : Type
  ListWriteOperation : Type
  InvokeRequest : Type
  TLVReader : Type
  CommandHandler : Type
  /-- `ReadOnlyBufferBuilder<T>`. -/
  ReadOnlyBufferBuilder : Type → Type
  EndpointEntry : Type
  SemanticTag : Type
  DeviceTypeEntry : Type
  ServerClusterEntry : Type
  AcceptedCommandEntry : Type
  /-- The rest of an `AttributeEntry`. -/
  AttributeFlags : Type
  ConcreteEventPath : Type
  EventEntry : Type
  MutableCharSpan : Type
  AttributePathParams : Type

variable {T : ProviderTypes} {σ : Type}

/-- `DataModel::AttributeEntry`. -/
structure AttributeEntry (T : ProviderTypes) where
  attributeId : AttributeId
  flags : T.AttributeFlags

/-- `DataModel::ReadAttributeRequest`. -/
structure ReadAttributeRequest (T : ProviderTypes) where
  path : ConcreteAttributePath
  rest : T.ReadRequest

/-- **The operations of `ReadOnlyBufferBuilder`**: `TakeBuffer`,
`EnsureAppendCapacity` and `Append` are a builder's `take`, `reserve` and
`append`. -/
abbrev BuilderOps (T : ProviderTypes) :=
  ∀ α : Type, ListBuilder (T.ReadOnlyBufferBuilder α) α ChipError.noError

/-- A method that adds to a builder. -/
abbrev Builds (T : ProviderTypes) (σ α : Type) :=
  T.ReadOnlyBufferBuilder α → σ → (ChipError × T.ReadOnlyBufferBuilder α) × σ

/-- **`DataModel::Provider`.** -/
structure Provider (T : ProviderTypes) (σ : Type) where
  startup : T.InteractionModelContext → σ → ChipError × σ
  shutdown : σ → ChipError × σ
  readAttribute : ReadAttributeRequest T → T.AttributeValueEncoder → σ →
    (ActionReturnStatus × T.AttributeValueEncoder) × σ
  writeAttribute : T.WriteAttributeRequest → T.AttributeValueDecoder → σ →
    (ActionReturnStatus × T.AttributeValueDecoder) × σ
  listAttributeWriteNotification : ConcreteAttributePath → T.ListWriteOperation → σ → σ
  invokeCommand : T.InvokeRequest → T.TLVReader → Option T.CommandHandler → σ →
    (Option ActionReturnStatus × T.TLVReader × Option T.CommandHandler) × σ
  endpoints : Builds T σ T.EndpointEntry
  semanticTags : EndpointId → Builds T σ T.SemanticTag
  deviceTypes : EndpointId → Builds T σ T.DeviceTypeEntry
  clientClusters : EndpointId → Builds T σ ClusterId
  serverClusters : EndpointId → Builds T σ T.ServerClusterEntry
  eventInfo : T.ConcreteEventPath → T.EventEntry → σ → (ChipError × T.EventEntry) × σ
  endpointUniqueID : EndpointId → T.MutableCharSpan → σ → (ChipError × T.MutableCharSpan) × σ
  attributes : ConcreteClusterPath → Builds T σ (AttributeEntry T)
  generatedCommands : ConcreteClusterPath → Builds T σ UInt32
  acceptedCommands : ConcreteClusterPath → Builds T σ T.AcceptedCommandEntry
  temporaryReportAttributeChanged : T.AttributePathParams → σ → σ

/-- **A call of the interface.** -/
inductive ProviderCall (T : ProviderTypes)
  | startup (context : T.InteractionModelContext)
  | shutdown
  | readAttribute (request : ReadAttributeRequest T) (encoder : T.AttributeValueEncoder)
  | writeAttribute (request : T.WriteAttributeRequest) (decoder : T.AttributeValueDecoder)
  | listAttributeWriteNotification (aPath : ConcreteAttributePath) (opType : T.ListWriteOperation)
  | invokeCommand (request : T.InvokeRequest) (inputArguments : T.TLVReader)
      (handler : Option T.CommandHandler)
  | endpoints (builder : T.ReadOnlyBufferBuilder T.EndpointEntry)
  | semanticTags (endpointId : EndpointId) (builder : T.ReadOnlyBufferBuilder T.SemanticTag)
  | deviceTypes (endpointId : EndpointId) (builder : T.ReadOnlyBufferBuilder T.DeviceTypeEntry)
  | clientClusters (endpointId : EndpointId) (builder : T.ReadOnlyBufferBuilder ClusterId)
  | serverClusters (endpointId : EndpointId)
      (builder : T.ReadOnlyBufferBuilder T.ServerClusterEntry)
  | eventInfo (path : T.ConcreteEventPath) (eventInfo : T.EventEntry)
  | endpointUniqueID (endpointId : EndpointId) (uniqueId : T.MutableCharSpan)
  | attributes (path : ConcreteClusterPath)
      (builder : T.ReadOnlyBufferBuilder (AttributeEntry T))
  | generatedCommands (path : ConcreteClusterPath) (builder : T.ReadOnlyBufferBuilder UInt32)
  | acceptedCommands (path : ConcreteClusterPath)
      (builder : T.ReadOnlyBufferBuilder T.AcceptedCommandEntry)
  | temporaryReportAttributeChanged (path : T.AttributePathParams)

/-- **What is seen of a call's end.** Of a builder that is its content. -/
inductive ProviderResponse (T : ProviderTypes) : Type 1
  | notified
  | returned (err : ChipError)
  | read (status : ActionReturnStatus) (encoder : T.AttributeValueEncoder)
  | written (status : ActionReturnStatus) (decoder : T.AttributeValueDecoder)
  | invoked (status : Option ActionReturnStatus) (inputArguments : T.TLVReader)
      (handler : Option T.CommandHandler)
  | built (α : Type) (err : ChipError) (content : List α)
  | eventInfo (err : ChipError) (eventInfo : T.EventEntry)
  | uniqueId (err : ChipError) (uniqueId : T.MutableCharSpan)

/-- The response of a method that adds to a builder. -/
def built {α : Type} (B : BuilderOps T)
    (ended : (ChipError × T.ReadOnlyBufferBuilder α) × σ) : ProviderResponse T × σ :=
  (.built α ended.1.1 ((B α).content ended.1.2), ended.2)

/-- **Call a provider.** -/
def Provider.call (B : BuilderOps T) (p : Provider T σ) (c : ProviderCall T) (s : σ) :
    ProviderResponse T × σ :=
  match c with
  | .startup context => (p.startup context s).map .returned id
  | .shutdown => (p.shutdown s).map .returned id
  | .readAttribute request encoder =>
    (p.readAttribute request encoder s).map (fun r => .read r.1 r.2) id
  | .writeAttribute request decoder =>
    (p.writeAttribute request decoder s).map (fun r => .written r.1 r.2) id
  | .listAttributeWriteNotification aPath opType =>
    (.notified, p.listAttributeWriteNotification aPath opType s)
  | .invokeCommand request inputArguments handler =>
    (p.invokeCommand request inputArguments handler s).map (fun r => .invoked r.1 r.2.1 r.2.2) id
  | .endpoints builder => built B (p.endpoints builder s)
  | .semanticTags endpointId builder => built B (p.semanticTags endpointId builder s)
  | .deviceTypes endpointId builder => built B (p.deviceTypes endpointId builder s)
  | .clientClusters endpointId builder => built B (p.clientClusters endpointId builder s)
  | .serverClusters endpointId builder => built B (p.serverClusters endpointId builder s)
  | .eventInfo path eventInfo =>
    (p.eventInfo path eventInfo s).map (fun r => .eventInfo r.1 r.2) id
  | .endpointUniqueID endpointId uniqueId =>
    (p.endpointUniqueID endpointId uniqueId s).map (fun r => .uniqueId r.1 r.2) id
  | .attributes path builder => built B (p.attributes path builder s)
  | .generatedCommands path builder => built B (p.generatedCommands path builder s)
  | .acceptedCommands path builder => built B (p.acceptedCommands path builder s)
  | .temporaryReportAttributeChanged path => (.notified, p.temporaryReportAttributeChanged path s)

/-! ## `ep0_metadata_filter.cpp` -/

namespace MetadataFilter

/-- `kRootEndpoint`. -/
def kRootEndpoint : EndpointId := 0

/-- `kBasicInformationClusterId`. -/
def kBasicInformationClusterId : ClusterId := Clusters.basicInformation

/-- `kGroupKeyMgmtEndpoint`. -/
def kGroupKeyMgmtEndpoint : EndpointId := 0

/-- `kGroupKeyMgmtCluster`. -/
def kGroupKeyMgmtCluster : ClusterId := Clusters.groupKeyManagement

/-- `MetadataFilter::ShouldFilter`. -/
def shouldFilter (_endpointId : EndpointId) (_clusterId : ClusterId)
    (_attributeId : AttributeId) : Bool :=
  false

/-- `MetadataFilter::ReadAttribute`, where `encode` is the encoder's. -/
def readAttribute
    (encode : Encoded → T.AttributeValueEncoder → ChipError × T.AttributeValueEncoder)
    (mInner : Provider T σ) (request : ReadAttributeRequest T)
    (encoder : T.AttributeValueEncoder) (s : σ) :
    (ActionReturnStatus × T.AttributeValueEncoder) × σ :=
  if request.path.mEndpointId = kGroupKeyMgmtEndpoint ∧
      request.path.mClusterId = kGroupKeyMgmtCluster ∧
      request.path.mAttributeId = kClusterRevisionId then
    let (err, encoder) := encode (.uint16 2) encoder
    if err ≠ .noError then ((.error err, encoder), s) else ((.status .success, encoder), s)
  else mInner.readAttribute request encoder s

/-- The loop of `MetadataFilter::Attributes`: append the entries of the
buffer that are not filtered, up to the first error. -/
def appendUnfiltered (B : BuilderOps T) (path : ConcreteClusterPath) :
    List (AttributeEntry T) → T.ReadOnlyBufferBuilder (AttributeEntry T) →
      ChipError × T.ReadOnlyBufferBuilder (AttributeEntry T) :=
  (B (AttributeEntry T)).appendWhere fun entry =>
    !shouldFilter path.mEndpointId path.mClusterId entry.attributeId

/-- The rest of `MetadataFilter::Attributes`, on Basic Information's: the
whole buffer is taken out and appended again. -/
def rebuild (B : BuilderOps T) (path : ConcreteClusterPath)
    (builder : T.ReadOnlyBufferBuilder (AttributeEntry T)) :
    ChipError × T.ReadOnlyBufferBuilder (AttributeEntry T) :=
  match (B (AttributeEntry T)).take builder with
  | (none, builder) => (.noError, builder)
  | (some buffer, builder) =>
    let (err, builder) := (B (AttributeEntry T)).reserve buffer.length builder
    if err ≠ .noError then (err, builder) else appendUnfiltered B path buffer builder

/-- `MetadataFilter::Attributes`. -/
def attributes (B : BuilderOps T) (mInner : Provider T σ) (path : ConcreteClusterPath) :
    Builds T σ (AttributeEntry T) := fun builder s =>
  let ((err, builder), s) := mInner.attributes path builder s
  if err ≠ .noError then ((err, builder), s)
  else if path.mEndpointId ≠ kRootEndpoint ∨ path.mClusterId ≠ kBasicInformationClusterId then
    ((.noError, builder), s)
  else (rebuild B path builder, s)

end MetadataFilter

/-- **`MetadataFilter`**, in front of another provider. -/
def metadataFilter (B : BuilderOps T)
    (encode : Encoded → T.AttributeValueEncoder → ChipError × T.AttributeValueEncoder)
    (mInner : Provider T σ) : Provider T σ where
  startup context := mInner.startup context
  shutdown := mInner.shutdown
  readAttribute := MetadataFilter.readAttribute encode mInner
  writeAttribute request decoder := mInner.writeAttribute request decoder
  listAttributeWriteNotification aPath opType := mInner.listAttributeWriteNotification aPath opType
  invokeCommand request inputArguments handler :=
    mInner.invokeCommand request inputArguments handler
  endpoints builder := mInner.endpoints builder
  semanticTags endpointId builder := mInner.semanticTags endpointId builder
  deviceTypes endpointId builder := mInner.deviceTypes endpointId builder
  clientClusters endpointId builder := mInner.clientClusters endpointId builder
  serverClusters endpointId builder := mInner.serverClusters endpointId builder
  eventInfo path eventInfo := mInner.eventInfo path eventInfo
  endpointUniqueID endpointId uniqueId := mInner.endpointUniqueID endpointId uniqueId
  attributes path := MetadataFilter.attributes B mInner path
  generatedCommands path builder := mInner.generatedCommands path builder
  acceptedCommands path builder := mInner.acceptedCommands path builder
  temporaryReportAttributeChanged path := mInner.temporaryReportAttributeChanged path

end SoilSensor
