import SoilSensor.Matter.Model.Attribute
/-!
# Model — the declared data model

What `soil-sensor-app.matter` says of the clusters that are overridden: the
attributes each definition declares, with their types, and those each
endpoint enables. Attributes are given by their ids, in the order of the
file, and the optional ones `ConfigureBasicInformation` enables at run time
are beside them.
-/

namespace SoilSensor

/-- The structs attributes are declared with. -/
inductive StructName
  | deviceTypeStruct
  | semanticTagStruct
  | capabilityMinimaStruct
  | productAppearanceStruct
  | networkInterface
  | groupKeyMapStruct
  | groupInfoMapStruct
  deriving DecidableEq

/-- A declared type: the integer types by their width, with the ids and
the other types that are integers by another name. -/
inductive DataType
  | boolean
  | unsigned (bits : ℕ)
  | enumeration (bits : ℕ)
  | bitmap (bits : ℕ)
  | charString (maxLength : ℕ)
  | struct (name : StructName)
  deriving DecidableEq

/-- A declared attribute. -/
structure AttributeDecl where
  id : AttributeId
  type : DataType
  isList : Bool
  deriving DecidableEq

namespace DataModel

/-- `vendor_id`. -/
def vendorId : DataType := .unsigned 16

/-- `endpoint_no`. -/
def endpointNo : DataType := .unsigned 16

/-- `cluster_id`. -/
def clusterId : DataType := .unsigned 32

/-- `command_id`. -/
def commandId : DataType := .unsigned 32

/-- `attrib_id`. -/
def attribId : DataType := .unsigned 32

/-- `generatedCommandList` to `clusterRevision`, which every definition
declares last. -/
def globalAttributes : List AttributeDecl :=
  [⟨65528, commandId, true⟩, ⟨65529, commandId, true⟩, ⟨65531, attribId, true⟩,
    ⟨65532, .bitmap 32, false⟩, ⟨65533, .unsigned 16, false⟩]

/-- `cluster Identify`. -/
def identify : List AttributeDecl :=
  [⟨0, .unsigned 16, false⟩, ⟨1, .enumeration 8, false⟩] ++ globalAttributes

/-- `cluster Descriptor`. -/
def descriptor : List AttributeDecl :=
  [⟨0, .struct .deviceTypeStruct, true⟩, ⟨1, clusterId, true⟩, ⟨2, clusterId, true⟩,
    ⟨3, endpointNo, true⟩, ⟨4, .struct .semanticTagStruct, true⟩, ⟨5, .charString 32, false⟩] ++
  globalAttributes

/-- `cluster BasicInformation`. -/
def basicInformation : List AttributeDecl :=
  [⟨0, .unsigned 16, false⟩, ⟨1, .charString 32, false⟩, ⟨2, vendorId, false⟩,
    ⟨3, .charString 32, false⟩, ⟨4, .unsigned 16, false⟩, ⟨5, .charString 32, false⟩,
    ⟨6, .charString 2, false⟩, ⟨7, .unsigned 16, false⟩, ⟨8, .charString 64, false⟩,
    ⟨9, .unsigned 32, false⟩, ⟨10, .charString 64, false⟩, ⟨11, .charString 16, false⟩,
    ⟨12, .charString 32, false⟩, ⟨13, .charString 256, false⟩, ⟨14, .charString 64, false⟩,
    ⟨15, .charString 32, false⟩, ⟨16, .boolean, false⟩, ⟨17, .boolean, false⟩,
    ⟨18, .charString 32, false⟩, ⟨19, .struct .capabilityMinimaStruct, false⟩,
    ⟨20, .struct .productAppearanceStruct, false⟩, ⟨21, .unsigned 32, false⟩,
    ⟨22, .unsigned 16, false⟩, ⟨24, .unsigned 32, false⟩] ++
  globalAttributes

/-- `cluster GeneralDiagnostics`. -/
def generalDiagnostics : List AttributeDecl :=
  [⟨0, .struct .networkInterface, true⟩, ⟨1, .unsigned 16, false⟩, ⟨2, .unsigned 64, false⟩,
    ⟨3, .unsigned 32, false⟩, ⟨4, .enumeration 8, false⟩, ⟨5, .enumeration 8, true⟩,
    ⟨6, .enumeration 8, true⟩, ⟨7, .enumeration 8, true⟩, ⟨8, .boolean, false⟩] ++
  globalAttributes

/-- `cluster GroupKeyManagement`. -/
def groupKeyManagement : List AttributeDecl :=
  [⟨0, .struct .groupKeyMapStruct, true⟩, ⟨1, .struct .groupInfoMapStruct, true⟩,
    ⟨2, .unsigned 16, false⟩, ⟨3, .unsigned 16, false⟩] ++
  globalAttributes

/-- The definition of an overridden cluster, if the file has one: it has
none of Time Synchronization and of ICD Management. -/
def declared (cluster : ClusterId) : Option (List AttributeDecl) :=
  if cluster = Clusters.identify then some identify
  else if cluster = Clusters.descriptor then some descriptor
  else if cluster = Clusters.basicInformation then some basicInformation
  else if cluster = Clusters.generalDiagnostics then some generalDiagnostics
  else if cluster = Clusters.groupKeyManagement then some groupKeyManagement
  else none

/-- The global attributes every `server cluster` enables. -/
def enabledGlobals : List AttributeId := [65528, 65529, 65531, 65532, 65533]

/-- The attributes an endpoint enables of an overridden cluster. -/
def enabled (endpoint : EndpointId) (cluster : ClusterId) : List AttributeId :=
  if endpoint = 0 then
    if cluster = Clusters.descriptor then [0, 1, 2, 3] ++ enabledGlobals
    else if cluster = Clusters.basicInformation then
      [0, 1, 2, 3, 4, 5, 6, 7, 8, 9, 10, 18, 19, 21, 22, 24] ++ enabledGlobals
    else if cluster = Clusters.generalDiagnostics then [0, 1, 2, 8] ++ enabledGlobals
    else if cluster = Clusters.groupKeyManagement then [0, 1, 2, 3] ++ enabledGlobals
    else []
  else if endpoint = 1 then
    if cluster = Clusters.identify then [0, 1] ++ enabledGlobals
    else if cluster = Clusters.descriptor then [0, 1, 2, 3] ++ enabledGlobals
    else []
  else []

/-- The optional attributes of Basic Information that
`ConfigureBasicInformation` enables: `ManufacturingDate`, `PartNumber`,
`ProductURL`, `ProductLabel`, `SerialNumber`, and `ProductAppearance`. -/
def optionalAttributes : List AttributeId := [0x000B, 0x000C, 0x000D, 0x000E, 0x000F, 0x0014]

/-- **The data model serves the attribute**: the endpoint enables it, or it
is one of the optional attributes of Basic Information. -/
def Serves (path : ConcreteAttributePath) : Prop :=
  path.mAttributeId ∈ enabled path.mEndpointId path.mClusterId ∨
    path.mEndpointId = 0 ∧ path.mClusterId = Clusters.basicInformation ∧
      path.mAttributeId ∈ optionalAttributes

instance (path : ConcreteAttributePath) : Decidable (Serves path) :=
  inferInstanceAs (Decidable (_ ∨ _))

end DataModel

/-! ## Shapes -/

/-- An integer of `bits` bits may stand for the type. -/
def DataType.holdsUnsigned (bits : ℕ) : DataType → Prop
  | .unsigned width | .enumeration width | .bitmap width => bits ≤ width
  | _ => False

/-- An element has the shape of the declared element type. -/
def ListItem.Fits (type : DataType) : ListItem → Prop
  | .uint16 _ => type.holdsUnsigned 16
  | .uint32 _ => type.holdsUnsigned 32
  | .deviceType _ => type = .struct .deviceTypeStruct

/-- **A value has the shape of the declaration.** A value of an unknown
type has none. -/
def Encoded.Fits (decl : AttributeDecl) : Encoded → Prop
  | .list items => decl.isList ∧ ∀ item ∈ items, item.Fits decl.type
  | .uint8 _ => decl.isList = false ∧ decl.type.holdsUnsigned 8
  | .uint16 _ => decl.isList = false ∧ decl.type.holdsUnsigned 16
  | .uint32 _ => decl.isList = false ∧ decl.type.holdsUnsigned 32
  | .uint64 _ => decl.isList = false ∧ decl.type.holdsUnsigned 64
  | .charString _ => decl.isList = false ∧ ∃ maxLength, decl.type = .charString maxLength
  | .null | .other _ => False

end SoilSensor
