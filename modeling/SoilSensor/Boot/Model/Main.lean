import SoilSensor.Common.Machine
import SoilSensor.Common.Script
import SoilSensor.App.Model.Event
import SoilSensor.Matter.Model.Overrides
/-!
# Model — `main`

`main.cpp` and `AppTask::StartApp`, as the calls they make in their order,
with what the failure of a call does: it is returned, it is fatal, or it is
logged. Besides `main` there are the thread of the application task, from
`k_thread_create` on, and that of the event loop, from `StartEventLoopTask`
on; returning from `main` ends its own thread alone. The event loop serves
the reads of clients and hands platform events to the handlers added so far.

What a call does is modelled for those that register an attribute override
or add a handler. What the others make of the data model, which is where
`ConfigureBasicInformation` enables attributes and the soil sensor and the
Wi-Fi commissioning serve their clusters, is a parameter. The rest of the
boot is in its calls alone.
-/

namespace SoilSensor

/-- The handlers `main` adds with `AddEventHandler`. -/
inductive EventHandler
  | factoryResetEventHandler
  | bleAppEventHandler
  | chipEventHandler
  deriving DecidableEq

/-- The calls of `main`, with those of `AppTask::StartApp` in place of its
own. -/
inductive BootCall
  | initSettings
  | initChipStack
  | setDeviceAttestationCredentialsProvider
  | configureBasicInformation
  | setDeviceInfoProvider
  | addEventHandler (handler : EventHandler)
  | dkButtonsInit
  | kThreadCreate
  | kThreadNameSet
  | loadSettingsIfEnabled
  | configureDeviceName
  | initializeStaticResourcesBeforeServerInit
  | setDataModelProvider
  | serverInit
  | registerTimeSyncDelegate
  | registerGenDiagAttrAccess
  | ep0Register
  | registerIdentifyRevisionOverride
  | registerGkmRevisionOverride
  | initEventLogging
  | configureDynamicMrp
  | revisionSanityCheck
  | initManagementClusters
  | ensureAccessControlReady
  | assertRootAccessControlReady
  | initializeFabricHandlers
  | openCommissioningWindowIfNeeded
  | setClockRealTime
  | initWifiCommissioningCluster
  | soilMoistureSensorInit
  | logDeviceConfig
  | printOnboardingCodes
  | startEventLoopTask
  | setStorageDelegate
  | setDeviceInfoProviderAgain
  | enableAdvertising
  deriving DecidableEq

/-- How `main` ends: with a value, or at a `VerifyOrDie`. -/
inductive BootEnd
  | returned (code : Int)
  | died
  deriving DecidableEq

namespace Boot

/-- What the failure of a call ends `main` with. An error that is only
logged, and one that is not looked at, end nothing. -/
def failure : BootCall → Option BootEnd
  | .initSettings => some (.returned 0)
  | .initChipStack => some (.returned 0)
  -- `StartApp` returns these two errors to `main`
  | .dkButtonsInit => some (.returned 0)
  | .kThreadCreate => some (.returned 0)
  | .initializeStaticResourcesBeforeServerInit => some (.returned (-3))
  | .serverInit => some (.returned (-2))
  | .ensureAccessControlReady => some .died
  | .assertRootAccessControlReady => some .died
  | _ => none

/-- **`main`**, where `soilEndpoint` is `CONFIG_SOIL_ENDPOINT`. An answer
is whether the call succeeded. -/
def main (soilEndpoint : Bool) : Script BootCall Bool BootEnd where
  calls :=
    [.initSettings, .initChipStack, .setDeviceAttestationCredentialsProvider,
      .configureBasicInformation, .setDeviceInfoProvider,
      .addEventHandler .factoryResetEventHandler, .addEventHandler .bleAppEventHandler,
      .dkButtonsInit, .addEventHandler .chipEventHandler, .kThreadCreate, .kThreadNameSet,
      .loadSettingsIfEnabled, .configureDeviceName,
      .initializeStaticResourcesBeforeServerInit, .setDataModelProvider, .serverInit,
      .registerTimeSyncDelegate, .registerGenDiagAttrAccess, .ep0Register,
      .registerIdentifyRevisionOverride, .registerGkmRevisionOverride, .initEventLogging,
      .configureDynamicMrp, .revisionSanityCheck, .initManagementClusters,
      .ensureAccessControlReady, .assertRootAccessControlReady, .initializeFabricHandlers,
      .openCommissioningWindowIfNeeded, .setClockRealTime, .initWifiCommissioningCluster] ++
    (if soilEndpoint then [.soilMoistureSensorInit] else []) ++
    [.logDeviceConfig, .printOnboardingCodes, .startEventLoopTask, .setStorageDelegate,
      .setDeviceInfoProviderAgain, .enableAdvertising]
  ends call succeeded := if succeeded then none else failure call

/-- **What the calls make of the data model** behind the overrides, an
interface that the stack registers there for a cluster of its own among it:
what an attribute is served with after a call, from what it was served with
before. -/
abbrev SetUp := BootCall × Bool → ConcreteAttributePath → ReadAnswer → ReadAnswer

/-- What a call does to the answers of the device. -/
def attributeEffect (setUp : SetUp) (store : AttributeStore) (env : OverrideEnv)
    (s : AttributeServer) : BootCall × Bool → AttributeServer
  | (.registerTimeSyncDelegate, _) => (SoilSensor.registerTimeSyncDelegate env s).2
  | (.registerGenDiagAttrAccess, _) => SoilSensor.registerGenDiagAttrAccess s
  | (.ep0Register, _) => SoilSensor.ep0Register env s
  | (.registerIdentifyRevisionOverride, _) => SoilSensor.registerIdentifyRevisionOverride 1 s
  | (.registerGkmRevisionOverride, _) => SoilSensor.registerGkmRevisionOverride store s
  | m => { s with base := fun path => setUp m path (s.base path) }

/-- What a call does to the handlers of platform events, kept in the order in
which they are added. -/
def handlerEffect (handlers : List EventHandler) : BootCall → List EventHandler
  | .addEventHandler handler => handlers ++ [handler]
  | _ => handlers

end Boot

/-- **A device that boots**: how far `main` is, the overrides and the
handlers as they stand, the reads answered, and the platform events handed
to handlers. -/
structure Booting (soilEndpoint : Bool) where
  main : (Boot.main soilEndpoint).Progress
  attributes : AttributeServer
  handlers : List EventHandler
  answers : List (ConcreteAttributePath × ReadAnswer)
  handed : List (DeviceEventType × List EventHandler)

namespace Booting

variable {soilEndpoint : Bool}

/-- A `VerifyOrDie` has failed, and every thread is gone. -/
def Dead (b : Booting soilEndpoint) : Prop := b.main.ended = some .died

instance (b : Booting soilEndpoint) : Decidable b.Dead := inferInstanceAs (Decidable (_ = _))

/-- The thread of the event loop runs. -/
def LoopRuns (b : Booting soilEndpoint) : Prop :=
  ¬ b.Dead ∧ (.startEventLoopTask, true) ∈ b.main.made

instance (b : Booting soilEndpoint) : Decidable b.LoopRuns := inferInstanceAs (Decidable (_ ∧ _))

/-- The thread of the application task runs. -/
def AppRuns (b : Booting soilEndpoint) : Prop := ¬ b.Dead ∧ (.kThreadCreate, true) ∈ b.main.made

instance (b : Booting soilEndpoint) : Decidable b.AppRuns := inferInstanceAs (Decidable (_ ∧ _))

/-- The steps of the three threads. -/
inductive Step
  /-- `main` makes its next call, which succeeds or does not. -/
  | main (succeeded : Bool)
  /-- The event loop answers a read. -/
  | read (path : ConcreteAttributePath)
  /-- The event loop hands a platform event to the handlers. -/
  | platform (type : DeviceEventType)
  /-- The application task does something. -/
  | app
  deriving DecidableEq

/-- **What a step does**, and `none` where its thread does not run. -/
def step (setUp : Boot.SetUp) (store : AttributeStore) (env : OverrideEnv)
    (b : Booting soilEndpoint) : Step → Option (Booting soilEndpoint)
  | .main succeeded =>
    match b.main.next?, b.main.answer succeeded with
    | some call, some main => some { b with
        main := main
        attributes := Boot.attributeEffect setUp store env b.attributes (call, succeeded)
        handlers := Boot.handlerEffect b.handlers call }
    | _, _ => none
  | .read path =>
    if b.LoopRuns then
      some { b with answers := b.answers ++ [(path, b.attributes.readAttribute path)] }
    else none
  | .platform type =>
    if b.LoopRuns then some { b with handed := b.handed ++ [(type, b.handlers)] } else none
  | .app => if b.AppRuns then some b else none

end Booting

end SoilSensor
