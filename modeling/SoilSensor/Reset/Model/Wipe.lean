import SoilSensor.Matter.Model.Error
import Mathlib.Data.List.Basic
/-!
# Model — the factory-reset wipe

`DoFullMatterWipe` of `access_manager.cpp`, over a stack that is not
modelled: what each of its calls answers and what it does to the state of
the stack are parameters, so that nothing is assumed of which calls fail
or of how one call affects the next. The wipe keeps a log of the calls it
makes.
-/

namespace SoilSensor

/-- `chip::FabricIndex`. -/
abbrev FabricIndex := UInt8

/-- `FabricInfo`, as far as the wipe reads it. -/
structure FabricInfo where
  fabricIndex : FabricIndex
  isInitialized : Bool
  deriving DecidableEq

/-- The attributes of the Access Control cluster that `NotifyAclChanged`
marks on endpoint 0. -/
inductive AclAttribute
  | acl
  | accessControlEntriesPerFabric
  | subjectsPerAccessControlEntry
  | targetsPerAccessControlEntry
  deriving DecidableEq

/-- The paths `NotifyAclChanged` marks, in its order. -/
def aclPaths : List AclAttribute :=
  [.acl, .accessControlEntriesPerFabric, .subjectsPerAccessControlEntry,
    .targetsPerAccessControlEntry]

/-- What is handed to `PlatformMgr().ScheduleWork`: the wipe's closure, or
one of another caller. -/
inductive Closure
  | settingsSave
  | other (id : ℕ)
  deriving DecidableEq

/-- The calls into the stack. -/
inductive Call
  | forceFailSafeTimerExpiry
  | closeCommissioningWindow
  | releaseAllSessions
  | expireAllSecureSessions
  | expireAllSessionsForFabric (fabricIndex : FabricIndex)
  | releaseSessionsForFabric (fabricIndex : FabricIndex)
  | resumptionDeleteAll (fabricIndex : FabricIndex)
  | groupRemoveFabric (fabricIndex : FabricIndex)
  | fabricTableDelete (fabricIndex : FabricIndex)
  | deleteAllEntriesForFabric (fabricIndex : FabricIndex)
  | resetAccessControlToDefault
  | setDirty (path : AclAttribute)
  | shutdown
  | kvsDoFactoryReset
  | destroyEventManagement
  | disarmFailSafe
  | scheduleWork (closure : Closure)
  deriving DecidableEq

/-- **The stack below the wipe.** `result` is read only of the calls that
return a `CHIP_ERROR`; `effect` says what a call leaves. The four flags say
which of the pointers the wipe asks the server for are not null. -/
structure Stack (σ : Type*) where
  result : Call → σ → ChipError
  effect : Call → σ → σ
  fabricTable : σ → List FabricInfo
  caseManager : Bool
  resumption : Bool
  groupProvider : Bool
  engine : Bool

/-- A call made, and what it returned. -/
structure Performed where
  call : Call
  result : ChipError
  deriving DecidableEq

/-- The wipe in progress: the stack's state, the calls so far, and
`firstError`. -/
structure Wipe (σ : Type*) where
  world : σ
  log : List Performed
  firstError : ChipError

variable {σ : Type*}

/-- `IsBenignNotFound`. -/
def isBenignNotFound (err : ChipError) : Bool :=
  err = .noError || err = .notFound || err = .persistedStorageValueNotFound || err = .keyNotFound

namespace Wipe

/-- A call whose result, if it has one, is not looked at. -/
def perform (p : Stack σ) (call : Call) (w : Wipe σ) : Wipe σ where
  world := p.effect call w.world
  log := w.log ++ [⟨call, p.result call w.world⟩]
  firstError := w.firstError

/-- A call whose error, unless it is tolerated, becomes `firstError` if
that is still `CHIP_NO_ERROR`. -/
def attempt (p : Stack σ) (call : Call) (tolerated : ChipError → Bool) (w : Wipe σ) : Wipe σ :=
  let err := p.result call w.world
  let w := w.perform p call
  if ¬ tolerated err then
    if w.firstError = .noError then { w with firstError := err } else w
  else w

/-- A call that is made only where a pointer is not null. -/
def unlessNull (present : Bool) (f : Wipe σ → Wipe σ) (w : Wipe σ) : Wipe σ :=
  if present then f w else w

/-- `NotifyAclChanged`. -/
def notifyAclChanged (p : Stack σ) : Wipe σ → Wipe σ :=
  unlessNull p.engine fun w => aclPaths.foldl (fun w path => w.perform p (.setDirty path)) w

/-- What comes before the fabrics are collected. -/
def closeSessions (p : Stack σ) (w : Wipe σ) : Wipe σ :=
  let w := w.perform p .forceFailSafeTimerExpiry
  let w := w.perform p .closeCommissioningWindow
  let w := w.unlessNull p.caseManager (perform p .releaseAllSessions)
  w.perform p .expireAllSecureSessions

/-- The body of the loop over `fabricsToDelete`. -/
def deleteFabric (p : Stack σ) (w : Wipe σ) (fabricIndex : FabricIndex) : Wipe σ :=
  let w := w.perform p (.expireAllSessionsForFabric fabricIndex)
  let w := w.unlessNull p.caseManager (perform p (.releaseSessionsForFabric fabricIndex))
  let w := w.unlessNull p.resumption (attempt p (.resumptionDeleteAll fabricIndex)
    fun err => isBenignNotFound err || err = .notImplemented)
  let w := w.unlessNull p.groupProvider (attempt p (.groupRemoveFabric fabricIndex)
    fun err => isBenignNotFound err || err = .notImplemented)
  let w := w.attempt p (.fabricTableDelete fabricIndex) fun err => err = .noError || err = .notFound
  -- the result is cast to `void`
  w.perform p (.deleteAllEntriesForFabric fabricIndex)

/-- What comes after the loop. -/
def resetServer (p : Stack σ) (w : Wipe σ) : Wipe σ :=
  let w := w.perform p .resetAccessControlToDefault
  let w := w.notifyAclChanged p
  let w := w.perform p .shutdown
  let w := w.attempt p .kvsDoFactoryReset fun err => err = .noError
  let w := w.perform p .destroyEventManagement
  let w := w.perform p .disarmFailSafe
  w.perform p (.scheduleWork .settingsSave)

/-- The indices of the initialised entries, in table order. -/
def fabricsToDelete (table : List FabricInfo) : List FabricIndex :=
  (table.filter FabricInfo.isInitialized).map FabricInfo.fabricIndex

end Wipe

open Wipe in
/-- `DoFullMatterWipe`, from a state of the stack; it returns the
`firstError` of the result. -/
def doFullMatterWipe (p : Stack σ) (world : σ) : Wipe σ :=
  let w := closeSessions p ⟨world, [], .noError⟩
  let fabricsToDelete := fabricsToDelete (p.fabricTable w.world)
  resetServer p (fabricsToDelete.foldl (deleteFabric p) w)

/-- `FabricTable::FabricCount`: the initialised entries. -/
def fabricCount (table : List FabricInfo) : ℕ := (table.filter FabricInfo.isInitialized).length

/-- `kDefaultCommissioningTimeout`, in seconds. -/
def kDefaultCommissioningTimeout : UInt32 := 15 * 60

/-- A call of `OpenBasicCommissioningWindow`, and the error that was warned
of. -/
structure WindowCall where
  timeout : UInt32
  warned : Option ChipError
  deriving DecidableEq

/-- `OpenCommissioningWindowIfNeeded`, where `OpenBasicCommissioningWindow`
answers `openWindow`. -/
def openCommissioningWindowIfNeeded (openWindow : UInt32 → ChipError) (table : List FabricInfo) :
    Option WindowCall :=
  if fabricCount table = 0 then
    let windowErr := openWindow kDefaultCommissioningTimeout
    some ⟨kDefaultCommissioningTimeout, if windowErr ≠ .noError then some windowErr else none⟩
  else none

end SoilSensor
