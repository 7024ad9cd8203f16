import SoilSensor.Common.Guard
import SoilSensor.Common.Machine
import SoilSensor.Reset.Model.Wipe
/-!
# Model — the one-shot registrations

`RegisterTimeSyncDelegate` and `InitializeFabricHandlers`, over registries
that are not modelled but for what they hold. What
`AttributeAccessInterfaceRegistry::Register` and
`FabricTable::AddFabricDelegate` answer comes with each call: a refusal
adds nothing. `AddEntryListener` has no answer, and adds.
-/

namespace SoilSensor

/-- What is registered as an `AttributeAccessInterface`. -/
inductive AccessInterface
  | timeSyncDelegate
  | other (id : ℕ)
  deriving DecidableEq

/-- What is registered as an `AccessControl::EntryListener`. -/
inductive EntryListener
  | gAccessControlEntryListener
  | other (id : ℕ)
  deriving DecidableEq

/-- What is registered as a `FabricTable::Delegate`. -/
inductive FabricDelegate
  | gCaseAdminAclFabricDelegate
  | other (id : ℕ)
  deriving DecidableEq

/-- **The guard flags, and the registries** they guard the additions to. -/
structure Registrations where
  sRegistered : Bool
  attributeAccess : List AccessInterface
  sAclListenerRegistered : Bool
  entryListeners : List EntryListener
  sFabricDelegateRegistered : Bool
  fabricDelegates : List FabricDelegate
  deriving DecidableEq

/-- `CHIP_ERROR_INCORRECT_STATE`, by its code. -/
def ChipError.incorrectState : ChipError := .other 0x03

/-- `CHIP_ERROR_NO_MEMORY`, by its code. -/
def ChipError.noMemory : ChipError := .other 0x0b

/-- What `InitializeFabricHandlers` logs. -/
inductive RegistrationLog
  /-- "Failed to register fabric ACL delegate". -/
  | fabricAclDelegate (err : ChipError)
  /-- "EnsureCaseAdminEntryForFabric failed for fabric". -/
  | caseAdminEntry (fabricIndex : FabricIndex) (err : ChipError)
  deriving DecidableEq

/-- `EnsureCaseAdminEntryForFabric`. -/
def ensureCaseAdminEntryForFabric (_fabricIndex : FabricIndex) : ChipError := .noError

namespace Registrations

/-- Static storage, and what others have registered. -/
def boot (attributeAccess : List AccessInterface) (entryListeners : List EntryListener)
    (fabricDelegates : List FabricDelegate) : Registrations :=
  ⟨false, attributeAccess, false, entryListeners, false, fabricDelegates⟩

/-- `RegisterTimeSyncDelegate`, where `Register` answers `registered`. -/
def registerTimeSyncDelegate (registered : Bool) (s : Registrations) : ChipError × Registrations :=
  if s.sRegistered then (.noError, s)
  else
    -- the result is cast to `void`
    let s :=
      if registered then { s with attributeAccess := .timeSyncDelegate :: s.attributeAccess }
      else s
    (.noError, { s with sRegistered := true })

/-- The first block of `InitializeFabricHandlers`. -/
def addAclListener (s : Registrations) : Registrations :=
  if s.sAclListenerRegistered then s
  else
    { s with
      entryListeners := .gAccessControlEntryListener :: s.entryListeners
      sAclListenerRegistered := true }

/-- The second block, where `AddFabricDelegate` answers `delegateErr`. -/
def addFabricDelegate (delegateErr : ChipError) (s : Registrations) :
    List RegistrationLog × Registrations :=
  if s.sFabricDelegateRegistered then ([], s)
  else if delegateErr = .noError then
    ([], { s with
      fabricDelegates := .gCaseAdminAclFabricDelegate :: s.fabricDelegates
      sFabricDelegateRegistered := true })
  else if delegateErr ≠ .noMemory ∧ delegateErr ≠ .incorrectState then
    ([.fabricAclDelegate delegateErr], s)
  else ([], s)

/-- The loop over the fabric table. -/
def ensureCaseAdminEntries (fabricTable : List FabricInfo) : List RegistrationLog :=
  fabricTable.filterMap fun info =>
    if info.isInitialized then
      let ensureErr := ensureCaseAdminEntryForFabric info.fabricIndex
      if ensureErr ≠ .noError then some (.caseAdminEntry info.fabricIndex ensureErr) else none
    else none

/-- `InitializeFabricHandlers`, with what it logs. -/
def initializeFabricHandlers (delegateErr : ChipError) (fabricTable : List FabricInfo)
    (s : Registrations) : List RegistrationLog × Registrations :=
  let s := s.addAclListener
  let (log, s) := s.addFabricDelegate delegateErr
  (log ++ ensureCaseAdminEntries fabricTable, s)

end Registrations

/-- **A call** of one of the two, with what the stack answers. -/
inductive RegistrationCall
  | registerTimeSyncDelegate (registered : Bool)
  | initializeFabricHandlers (delegateErr : ChipError) (fabricTable : List FabricInfo)
  deriving DecidableEq

/-- **The registrations, call by call**, from any content of the
registries. -/
def registrations (attributeAccess : List AccessInterface) (entryListeners : List EntryListener)
    (fabricDelegates : List FabricDelegate) : Machine Registrations RegistrationCall where
  init := .boot attributeAccess entryListeners fabricDelegates
  step
    | s, .registerTimeSyncDelegate registered => some (s.registerTimeSyncDelegate registered).2
    | s, .initializeFabricHandlers delegateErr fabricTable =>
      some (s.initializeFabricHandlers delegateErr fabricTable).2

end SoilSensor
