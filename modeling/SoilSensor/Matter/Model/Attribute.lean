import SoilSensor.Common.Registry
import SoilSensor.Matter.Model.Error
import Mathlib.Logic.Function.Basic
/-!
# Model — attributes and who answers for them

Paths, the values handed to an encoder, and the attribute access
interfaces that stand in front of the data model. A read goes to the
interface registered for its cluster and endpoint; where there is none, or
where its `Read` returns `CHIP_NO_ERROR` and has encoded nothing, the data
model answers.
-/

namespace SoilSensor

/-- `EndpointId`. -/
abbrev EndpointId := UInt16

/-- `ClusterId`. -/
abbrev ClusterId := UInt32

/-- `AttributeId`. -/
abbrev AttributeId := UInt32

/-- `ConcreteReadAttributePath`. -/
structure ConcreteAttributePath where
  mEndpointId : EndpointId
  mClusterId : ClusterId
  mAttributeId : AttributeId
  deriving DecidableEq

namespace Clusters

/-- `Identify::Id`. -/
def identify : ClusterId := 0x0003

/-- `Descriptor::Id`. -/
def descriptor : ClusterId := 0x001D

/-- `AccessControl::Id`. -/
def accessControl : ClusterId := 0x001F

/-- `BasicInformation::Id`. -/
def basicInformation : ClusterId := 0x0028

/-- `LocalizationConfiguration::Id`. -/
def localizationConfiguration : ClusterId := 0x002B

/-- `GeneralCommissioning::Id`. -/
def generalCommissioning : ClusterId := 0x0030

/-- `NetworkCommissioning::Id`. -/
def networkCommissioning : ClusterId := 0x0031

/-- `GeneralDiagnostics::Id`. -/
def generalDiagnostics : ClusterId := 0x0033

/-- `TimeSynchronization::Id`. -/
def timeSynchronization : ClusterId := 0x0038

/-- `AdministratorCommissioning::Id`. -/
def administratorCommissioning : ClusterId := 0x003C

/-- `OperationalCredentials::Id`. -/
def operationalCredentials : ClusterId := 0x003E

/-- `GroupKeyManagement::Id`. -/
def groupKeyManagement : ClusterId := 0x003F

/-- `kIcdCluster`. -/
def icdManagement : ClusterId := 0x0046

/-- `SoilMeasurement::Id`. -/
def soilMeasurement : ClusterId := 0x0430

end Clusters

/-- `kGeneratedCmdListId`. -/
def kGeneratedCmdListId : AttributeId := 0xFFF8

/-- `kAcceptedCmdListId`. -/
def kAcceptedCmdListId : AttributeId := 0xFFF9

/-- `kAttributeListId`. -/
def kAttributeListId : AttributeId := 0xFFFB

/-- `kFeatureMapId`. -/
def kFeatureMapId : AttributeId := 0xFFFC

/-- `kClusterRevisionId`. -/
def kClusterRevisionId : AttributeId := 0xFFFD

/-- `Descriptor::Structs::DeviceTypeStruct`. -/
structure DeviceTypeStruct where
  deviceType : UInt32
  revision : UInt16
  deriving DecidableEq

/-- An element of an encoded list. -/
inductive ListItem
  | uint16 (value : UInt16)
  | uint32 (value : UInt32)
  | deviceType (value : DeviceTypeStruct)
  deriving DecidableEq

/-- What an `AttributeValueEncoder` is handed. A data model may answer with
a value of any other type, which is given by its bytes. -/
inductive Encoded
  | null
  | uint8 (value : UInt8)
  | uint16 (value : UInt16)
  | uint32 (value : UInt32)
  | uint64 (value : UInt64)
  | charString (value : String)
  | list (items : List ListItem)
  | other (bytes : List UInt8)
  deriving DecidableEq

/-- **How a read ends**: with a value, or with an error. An interface that
ends with `CHIP_NO_ERROR` has encoded nothing. -/
inductive ReadAnswer
  | value (value : Encoded)
  | error (err : ChipError)
  deriving DecidableEq

/-- `AttributeAccessInterface`. -/
structure AttributeAccessInterface where
  mEndpointId : Option EndpointId
  mClusterId : ClusterId
  read : ConcreteAttributePath → ReadAnswer

namespace AttributeAccessInterface

/-- The interface is of the endpoint, or of all. -/
def covers (i : AttributeAccessInterface) (endpoint : EndpointId) : Bool :=
  match i.mEndpointId with
  | some own => own = endpoint
  | none => true

/-- Two interfaces have an endpoint in common. -/
def meets (i j : AttributeAccessInterface) : Bool :=
  match j.mEndpointId with
  | some own => i.covers own
  | none => true

theorem meets_of_covers {i j : AttributeAccessInterface} {endpoint : EndpointId}
    (hi : i.covers endpoint) (hj : j.covers endpoint) : i.meets j := by
  unfold meets
  split
  · rename_i own hown
    simp only [covers, hown, decide_eq_true_eq] at hj
    rw [hj]
    exact hi
  · rfl

/-- **How interfaces are told apart**: by cluster and endpoint. -/
def matching : Matching AttributeAccessInterface (EndpointId × ClusterId) where
  handles i k := i.mClusterId = k.2 && i.covers k.1
  overlaps i j := i.mClusterId = j.mClusterId && i.meets j
  overlaps_of_handles := by
    intro i j k hi hj
    simp only [Bool.and_eq_true, decide_eq_true_eq] at hi hj ⊢
    exact ⟨hi.1.trans hj.1.symm, meets_of_covers hi.2 hj.2⟩

end AttributeAccessInterface

/-- **What the application registers with**: the registry, the data model
behind it, the statics of its registration functions, and how many
interfaces the registry has refused. -/
structure AttributeServer where
  registry : List AttributeAccessInterface
  base : ConcreteAttributePath → ReadAnswer
  sRegistered : Bool
  sAltInterface : Option EndpointId
  refused : ℕ

namespace AttributeServer

/-- `AttributeAccessInterfaceRegistry::Get`. -/
def get (path : ConcreteAttributePath) (s : AttributeServer) : Option AttributeAccessInterface :=
  AttributeAccessInterface.matching.get (path.mEndpointId, path.mClusterId) s.registry

/-- **The answer to a read.** -/
def readAttribute (path : ConcreteAttributePath) (s : AttributeServer) : ReadAnswer :=
  match s.get path with
  | some i =>
    match i.read path with
    | .error .noError => s.base path
    | answer => answer
  | none => s.base path

/-- `AttributeAccessInterfaceRegistry::Register`. -/
def register (i : AttributeAccessInterface) (s : AttributeServer) : Bool × AttributeServer :=
  match AttributeAccessInterface.matching.register i s.registry with
  | some registry => (true, { s with registry := registry })
  | none => (false, { s with refused := s.refused + 1 })

end AttributeServer

end SoilSensor
