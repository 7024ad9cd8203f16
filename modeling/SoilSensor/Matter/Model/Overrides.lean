import SoilSensor.Matter.Model.Attribute
import SoilSensor.TimeSync.Model.Delegate
/-!
# Model — the attribute access overrides

The six override classes of the application with their `Read`, and the
functions that register them, in the order `main` calls these. What
`ConfigurationMgr()` answers is a parameter, as is the state of the time
synchronization delegate at the time of a read.
-/

namespace SoilSensor

/-- `kEp0`. -/
def kEp0 : EndpointId := 0

/-- `kSoilEndpoint`. -/
def kSoilEndpoint : EndpointId := 1

/-- `ConfigurationMgr()`, as far as the overrides ask it. -/
structure ConfigurationMgr where
  getUniqueId : Except ChipError String
  getConfigurationVersion : Except ChipError UInt32

/-- **What the overrides answer from**: whether `CONFIG_SOIL_ENDPOINT` is
set, `ConfigurationMgr()`, and the time synchronization delegate. -/
structure OverrideEnv where
  soilEndpoint : Bool
  configurationMgr : ConfigurationMgr
  timeSync : TimeSync.State

/-- A device on which nothing is stored yet. -/
def OverrideEnv.fresh : OverrideEnv :=
  ⟨true, ⟨.error .keyNotFound, .error .keyNotFound⟩, TimeSync.boot 0 0⟩

/-- `EncodeSimpleList`. -/
def encodeSimpleList {α : Type} (item : α → ListItem) (values : List α) : ReadAnswer :=
  .value (.list (values.map item))

/-- `EncodeEmptyList`. -/
def encodeEmptyList : ReadAnswer := .value (.list [])

/-! ## `ep0_im_sanitizer.cpp` -/

namespace AttrListSanitizer

/-- `kBasicInfoConfigurationVersion`. -/
def kBasicInfoConfigurationVersion : AttributeId := 0x0018

/-- `kBasicInfoUniqueId`. -/
def kBasicInfoUniqueId : AttributeId := 0x0012

/-- `kIcdIdleModeDuration`. -/
def kIcdIdleModeDuration : AttributeId := 0x0000

/-- `kIcdActiveModeDuration`. -/
def kIcdActiveModeDuration : AttributeId := 0x0001

/-- `kIcdActiveModeThreshold`. -/
def kIcdActiveModeThreshold : AttributeId := 0x0002

/-- `kIcdRegisteredClients`. -/
def kIcdRegisteredClients : AttributeId := 0x0003

/-- `kIcdIcdCounter`. -/
def kIcdIcdCounter : AttributeId := 0x0004

/-- `kDescriptorDeviceTypeList`. -/
def kDescriptorDeviceTypeList : AttributeId := 0x0000

/-- `kDescriptorServerList`. -/
def kDescriptorServerList : AttributeId := 0x0001

/-- `kDescriptorClientList`. -/
def kDescriptorClientList : AttributeId := 0x0002

/-- `kDescriptorPartsList`. -/
def kDescriptorPartsList : AttributeId := 0x0003

/-- `kIcdClusterRevision`. -/
def kIcdClusterRevision : UInt16 := 3

/-- `kDescriptorClusterRevision`. -/
def kDescriptorClusterRevision : UInt16 := 2

/-- `kRootDeviceType`. -/
def kRootDeviceType : UInt32 := 0x0016

/-- `kSoilSensorDeviceType`. -/
def kSoilSensorDeviceType : UInt32 := 0x0045

/-- `kRootServerClusters`. -/
def kRootServerClusters : List ClusterId :=
  [Clusters.descriptor, Clusters.accessControl, Clusters.basicInformation,
    Clusters.localizationConfiguration, Clusters.generalCommissioning,
    Clusters.networkCommissioning, Clusters.generalDiagnostics,
    Clusters.administratorCommissioning, Clusters.operationalCredentials,
    Clusters.groupKeyManagement, Clusters.timeSynchronization, Clusters.icdManagement]

/-- `kRootPartsList`. -/
def kRootPartsList : List EndpointId := [1]

/-- `kSoilServerClusters`. -/
def kSoilServerClusters : List ClusterId :=
  [Clusters.identify, Clusters.descriptor, Clusters.soilMeasurement]

/-- `kFallbackUniqueId`. -/
def kFallbackUniqueId : String := "soil-sensor-uid"

/-- `kAttributes` of the Basic Information branch. -/
def basicInfoAttributes : List AttributeId :=
  [0x0000, 0x0001, 0x0002, 0x0003, 0x0004, 0x0005, 0x0006, 0x0007, 0x0008, 0x0009,
    0x000A, 0x0012, 0x0013, 0x0015, 0x0016, kBasicInfoConfigurationVersion,
    kGeneratedCmdListId, kAcceptedCmdListId, kAttributeListId, kClusterRevisionId]

/-- `kAttributes` of the Descriptor branch. -/
def descriptorAttributes : List AttributeId :=
  [kDescriptorDeviceTypeList, kDescriptorServerList, kDescriptorClientList, kDescriptorPartsList,
    kGeneratedCmdListId, kAcceptedCmdListId, kAttributeListId, kFeatureMapId, kClusterRevisionId]

/-- `kAttributes` of the ICD Management branch. -/
def icdAttributes : List AttributeId :=
  [kIcdIdleModeDuration, kIcdActiveModeDuration, kIcdActiveModeThreshold,
    kGeneratedCmdListId, kAcceptedCmdListId, kAttributeListId, kFeatureMapId, kClusterRevisionId]

/-- The Basic Information branch of `Read`. -/
def readBasicInfo (mgr : ConfigurationMgr) (mAttributeId : AttributeId) : ReadAnswer :=
  if mAttributeId = kBasicInfoUniqueId then
    match mgr.getUniqueId with
    | .ok uniqueId =>
      if uniqueId ≠ "" then .value (.charString uniqueId)
      else .value (.charString kFallbackUniqueId)
    | .error _ => .value (.charString kFallbackUniqueId)
  else if mAttributeId = kBasicInfoConfigurationVersion then
    match mgr.getConfigurationVersion with
    | .ok configurationVersion => .value (.uint32 configurationVersion)
    | .error _ => .value (.uint32 1)
  else if mAttributeId = kAttributeListId then encodeSimpleList .uint32 basicInfoAttributes
  else .error .noError

/-- The Descriptor branch of `Read`. -/
def readDescriptor (soilEndpoint : Bool) (mEndpoint : EndpointId) (mAttributeId : AttributeId) :
    ReadAnswer :=
  if mAttributeId = kDescriptorDeviceTypeList then
    if mEndpoint = kEp0 then .value (.list [.deviceType ⟨kRootDeviceType, 3⟩])
    else if mEndpoint = kSoilEndpoint then .value (.list [.deviceType ⟨kSoilSensorDeviceType, 1⟩])
    else .error .noError
  else if mAttributeId = kDescriptorServerList then
    if mEndpoint = kSoilEndpoint then encodeSimpleList .uint32 kSoilServerClusters
    else encodeSimpleList .uint32 kRootServerClusters
  else if mAttributeId = kDescriptorClientList then encodeEmptyList
  else if mAttributeId = kDescriptorPartsList then
    if mEndpoint = kEp0 then
      if soilEndpoint then encodeSimpleList .uint16 kRootPartsList else encodeEmptyList
    else encodeEmptyList
  else if mAttributeId = kGeneratedCmdListId ∨ mAttributeId = kAcceptedCmdListId then
    encodeEmptyList
  else if mAttributeId = kAttributeListId then encodeSimpleList .uint32 descriptorAttributes
  else if mAttributeId = kFeatureMapId then .value (.uint32 0)
  else if mAttributeId = kClusterRevisionId then .value (.uint16 kDescriptorClusterRevision)
  else .error .noError

/-- The ICD Management branch of `Read`. -/
def readIcd (mAttributeId : AttributeId) : ReadAnswer :=
  if mAttributeId = kIcdIdleModeDuration then .value (.uint32 0)
  else if mAttributeId = kIcdActiveModeDuration then .value (.uint32 0)
  else if mAttributeId = kIcdActiveModeThreshold then .value (.uint16 0)
  else if mAttributeId = kClusterRevisionId then .value (.uint16 kIcdClusterRevision)
  else if mAttributeId = kFeatureMapId then .value (.uint32 0)
  else if mAttributeId = kAttributeListId then encodeSimpleList .uint32 icdAttributes
  else if mAttributeId = kGeneratedCmdListId ∨ mAttributeId = kAcceptedCmdListId then
    encodeEmptyList
  else if mAttributeId = kIcdRegisteredClients ∨ mAttributeId = kIcdIcdCounter then
    .error (.imGlobalStatus .unsupportedAttribute)
  else .error .noError

/-- `AttrListSanitizer::Read`. -/
def read (env : OverrideEnv) (mEndpoint : EndpointId) (mClusterId : ClusterId)
    (path : ConcreteAttributePath) : ReadAnswer :=
  if path.mEndpointId ≠ mEndpoint ∨ path.mClusterId ≠ mClusterId then .error .noError
  else if mClusterId = Clusters.basicInformation then
    readBasicInfo env.configurationMgr path.mAttributeId
  else if mClusterId = Clusters.descriptor then
    readDescriptor env.soilEndpoint mEndpoint path.mAttributeId
  else if mClusterId = Clusters.icdManagement then readIcd path.mAttributeId
  else .error .noError

end AttrListSanitizer

/-- `AttrListSanitizer`. -/
def attrListSanitizer (env : OverrideEnv) (endpoint : EndpointId) (clusterId : ClusterId) :
    AttributeAccessInterface :=
  ⟨some endpoint, clusterId, AttrListSanitizer.read env endpoint clusterId⟩

/-! ## The other classes -/

/-- `GkmClusterRevisionOverride::Read`. -/
def GkmClusterRevisionOverride.read (path : ConcreteAttributePath) : ReadAnswer :=
  if path.mAttributeId = kClusterRevisionId then .value (.uint16 2) else .error .noError

/-- `GkmClusterRevisionOverride`. -/
def gkmClusterRevisionOverride : AttributeAccessInterface :=
  ⟨some 0, Clusters.groupKeyManagement, GkmClusterRevisionOverride.read⟩

namespace GenDiagAttrAccess

/-- `kGeneralDiagnostics`. -/
def kGeneralDiagnostics : ClusterId := 0x0033

/-- `kBootReason`. -/
def kBootReason : AttributeId := 0x0003

/-- `kActiveHardwareFaults`. -/
def kActiveHardwareFaults : AttributeId := 0x0004

/-- `GenDiagAttrAccess::Read`. -/
def read (path : ConcreteAttributePath) : ReadAnswer :=
  if path.mAttributeId = kBootReason then .value (.uint8 0)
  else if path.mAttributeId = kActiveHardwareFaults then .value (.list [])
  else .error .noError

end GenDiagAttrAccess

/-- `GenDiagAttrAccess`. -/
def genDiagAttrAccess : AttributeAccessInterface :=
  ⟨some kEp0, GenDiagAttrAccess.kGeneralDiagnostics, GenDiagAttrAccess.read⟩

/-- `IdentifyRevisionOverride::Read`. -/
def IdentifyRevisionOverride.read (mEndpoint : EndpointId) (path : ConcreteAttributePath) :
    ReadAnswer :=
  if path.mEndpointId ≠ mEndpoint ∨ path.mClusterId ≠ Clusters.identify then .error .noError
  else if path.mAttributeId = kClusterRevisionId then .value (.uint16 6)
  else .error .noError

/-- `IdentifyRevisionOverride`. -/
def identifyRevisionOverride (endpoint : EndpointId) : AttributeAccessInterface :=
  ⟨some endpoint, Clusters.identify, IdentifyRevisionOverride.read endpoint⟩

namespace TimeSync

/-- The attribute of an id. -/
def AttributeId.ofId (id : UInt32) : AttributeId :=
  if id = 0x0000 then .utcTime
  else if id = 0x0001 then .granularity
  else if id = 0x0002 then .timeSource
  else if id = 0x0005 then .timeZone
  else if id = 0x0006 then .dstOffset
  else if id = kGeneratedCmdListId then .generatedCommandList
  else if id = kAcceptedCmdListId then .acceptedCommandList
  else if id = kAttributeListId then .attributeList
  else if id = kFeatureMapId then .featureMap
  else if id = kClusterRevisionId then .clusterRevision
  else .other id

/-- The id of an attribute. -/
def AttributeId.id : AttributeId → UInt32
  | .utcTime => 0x0000
  | .granularity => 0x0001
  | .timeSource => 0x0002
  | .timeZone => 0x0005
  | .dstOffset => 0x0006
  | .generatedCommandList => kGeneratedCmdListId
  | .acceptedCommandList => kAcceptedCmdListId
  | .attributeList => kAttributeListId
  | .featureMap => kFeatureMapId
  | .clusterRevision => kClusterRevisionId
  | .other id => id

/-- The id of a command. -/
def CommandId.id : CommandId → UInt32
  | .setUTCTime => 0x00

/-- What is handed to the encoder, as such. -/
def AttributeValue.encoded : AttributeValue → Encoded
  | .null => .null
  | .uint64 value => .uint64 value
  | .uint32 value => .uint32 value
  | .uint16 value => .uint16 value
  | .uint8 value => .uint8 value
  | .attributeIds ids => .list (ids.map fun a => .uint32 a.id)
  | .commandIds ids => .list (ids.map fun c => .uint32 c.id)

/-- The end of a read, as such. -/
def ReadOutcome.answer : ReadOutcome → ReadAnswer
  | .encode value => .value value.encoded
  | .returns err => .error err

end TimeSync

/-- `TimeSyncDelegate`, whose `Read` does not look at the cluster. -/
def timeSyncDelegate (s : TimeSync.State) : AttributeAccessInterface where
  mEndpointId := some kRootEndpoint
  mClusterId := Clusters.timeSynchronization
  read path := (TimeSync.read ⟨path.mEndpointId, .ofId path.mAttributeId⟩ s).answer

/-! ## Registration -/

/-- `RegisterTimeSyncDelegate`. -/
def registerTimeSyncDelegate (env : OverrideEnv) (s : AttributeServer) :
    ChipError × AttributeServer :=
  if s.sRegistered then (.noError, s)
  else
    let (_, s) := s.register (timeSyncDelegate env.timeSync)
    (.noError, { s with sRegistered := true })

/-- `RegisterGenDiagAttrAccess`. -/
def registerGenDiagAttrAccess (s : AttributeServer) : AttributeServer :=
  (s.register genDiagAttrAccess).2

/-- `matter::ep0::Register`. -/
def ep0Register (env : OverrideEnv) (s : AttributeServer) : AttributeServer :=
  let s := (s.register (attrListSanitizer env kEp0 Clusters.basicInformation)).2
  let s := (s.register (attrListSanitizer env kEp0 Clusters.descriptor)).2
  let s :=
    if env.soilEndpoint then
      (s.register (attrListSanitizer env kSoilEndpoint Clusters.descriptor)).2
    else s
  (s.register (attrListSanitizer env kEp0 Clusters.icdManagement)).2

/-- `kDefaultEndpoint`. -/
def kDefaultEndpoint : EndpointId := 1

/-- `GetInterface`: two statics, the second constructed by the first call
that reaches it. -/
def getInterface (endpoint : EndpointId) (s : AttributeServer) :
    AttributeAccessInterface × AttributeServer :=
  if endpoint = kDefaultEndpoint then (identifyRevisionOverride kDefaultEndpoint, s)
  else
    match s.sAltInterface with
    | some constructed => (identifyRevisionOverride constructed, s)
    | none => (identifyRevisionOverride endpoint, { s with sAltInterface := some endpoint })

/-- `RegisterIdentifyRevisionOverride`. -/
def registerIdentifyRevisionOverride (endpoint : EndpointId) (s : AttributeServer) :
    AttributeServer :=
  let (iface, s) := getInterface endpoint s
  (s.register iface).2

/-- **The attribute store, as far as the application writes to it**: what
the data model answers after `emberAfWriteAttribute` of a 16-bit attribute.
A write may be taken, as it stands or in part, or refused, but changes no
other attribute. -/
structure AttributeStore where
  emberAfWriteAttribute : ConcreteAttributePath → UInt16 →
    (ConcreteAttributePath → ReadAnswer) → ConcreteAttributePath → ReadAnswer
  write_of_ne : ∀ {target path value base}, path ≠ target →
    emberAfWriteAttribute target value base path = base path

/-- A store that takes what is written. -/
def AttributeStore.taking : AttributeStore where
  emberAfWriteAttribute target value base := Function.update base target (.value (.uint16 value))
  write_of_ne hne := Function.update_of_ne hne _ _

/-- A store that refuses it. -/
def AttributeStore.refusing : AttributeStore where
  emberAfWriteAttribute _ _ base := base
  write_of_ne _ := rfl

/-- `MatterAppPlatform_RegisterGkmRevisionOverride`. -/
def registerGkmRevisionOverride (store : AttributeStore) (s : AttributeServer) :
    AttributeServer :=
  match s.register gkmClusterRevisionOverride with
  | (false, s) => s
  | (true, s) =>
    -- the status of the write is only logged
    let base := store.emberAfWriteAttribute
      ⟨0, Clusters.groupKeyManagement, kClusterRevisionId⟩ 2 s.base
    { s with base := base }

/-- **What `main` registers**, in its order. -/
def registerOverrides (env : OverrideEnv) (store : AttributeStore) (s : AttributeServer) :
    AttributeServer :=
  let (_, s) := registerTimeSyncDelegate env s
  let s := registerGenDiagAttrAccess s
  let s := ep0Register env s
  let s := registerIdentifyRevisionOverride 1 s
  registerGkmRevisionOverride store s

/-- The interfaces it registers. -/
def overrides (env : OverrideEnv) : List AttributeAccessInterface :=
  [timeSyncDelegate env.timeSync, genDiagAttrAccess,
    attrListSanitizer env kEp0 Clusters.basicInformation,
    attrListSanitizer env kEp0 Clusters.descriptor] ++
  (if env.soilEndpoint then [attrListSanitizer env kSoilEndpoint Clusters.descriptor] else []) ++
  [attrListSanitizer env kEp0 Clusters.icdManagement, identifyRevisionOverride 1,
    gkmClusterRevisionOverride]

/-- Nothing registered by the application yet. -/
def AttributeServer.boot (registry : List AttributeAccessInterface)
    (base : ConcreteAttributePath → ReadAnswer) : AttributeServer :=
  ⟨registry, base, false, none, 0⟩

end SoilSensor
