import SoilSensor.Common.Machine
import SoilSensor.Matter.Model.Error
import Mathlib.Data.Nat.Notation
/-!
# Model — the time synchronization delegate

`ep0_timesync_delegate.cpp`: the attribute access interface of endpoint 0
and the handler of `SetUTCTime`. What the handler calls is not modelled:
the answers of the two setters come with each command, and the conversion
of epochs is a parameter, of which only what its documentation says is
known.
-/

namespace SoilSensor

/-- **`ChipEpochToUnixEpochMicros`**: it adds the offset of the epochs, and
refuses where the sum does not fit. -/
structure EpochConversion where
  offset : ℕ
  chipEpochToUnixEpochMicros : UInt64 → Option UInt64
  eq_none_iff : ∀ t, chipEpochToUnixEpochMicros t = none ↔ UInt64.size ≤ t.toNat + offset
  eq_some : ∀ t u, chipEpochToUnixEpochMicros t = some u → u.toNat = t.toNat + offset

/-- `TimeSourceEnum`. -/
abbrev TimeSourceEnum := UInt8

/-- `TimeSourceEnum::kNone`. -/
def TimeSourceEnum.kNone : TimeSourceEnum := 0

/-- `GranularityEnum::kNoTimeGranularity`. -/
def kNoTimeGranularity : UInt8 := 0

/-- `kMicrosecondsPerSecond`. -/
def kMicrosecondsPerSecond : UInt64 := 1000000

/-- `UINT32_MAX`, compared with 64-bit values. -/
def UINT32_MAX : UInt64 := 4294967295

/-- `kRootEndpoint`. -/
def kRootEndpoint : UInt16 := 0

/-- `kClusterRevision`. -/
def kClusterRevision : UInt16 := 2

/-- `kFeatureMap`. -/
def kFeatureMap : UInt32 := 0

namespace TimeSync

/-- The attributes of the cluster that the delegate tells apart. -/
inductive AttributeId
  | utcTime
  | granularity
  | timeSource
  | timeZone
  | dstOffset
  | generatedCommandList
  | acceptedCommandList
  | attributeList
  | featureMap
  | clusterRevision
  | other (id : UInt32)
  deriving DecidableEq

/-- A path to an attribute of the cluster. -/
structure AttributePath where
  mEndpointId : UInt16
  mAttributeId : AttributeId
  deriving DecidableEq

/-- The commands of the cluster the delegate lists. -/
inductive CommandId
  | setUTCTime
  deriving DecidableEq

/-- What is handed to the encoder. -/
inductive AttributeValue
  | null
  | uint64 (value : UInt64)
  | uint32 (value : UInt32)
  | uint16 (value : UInt16)
  | uint8 (value : UInt8)
  | attributeIds (ids : List AttributeId)
  | commandIds (ids : List CommandId)
  deriving DecidableEq

/-- How a read ends: with what the encoder says to a value, or with an
error of its own, which may be `CHIP_NO_ERROR`. -/
inductive ReadOutcome
  | encode (value : AttributeValue)
  | returns (err : ChipError)
  deriving DecidableEq

/-- `Commands::SetUTCTime::DecodableType`, as far as the handler reads it. -/
structure SetUTCTime where
  utcTime : UInt64
  timeSource : Option TimeSourceEnum
  deriving DecidableEq

/-- What a command meets: the answers of `SetLastKnownGoodChipEpochTime`
and `SetClock_RealTime`, and whether there is an engine. -/
structure Answers where
  lastKnownGood : ChipError
  clock : ChipError
  engine : Bool
  deriving DecidableEq

/-- A call of one of the setters, with its argument. -/
inductive SetterCall
  | setLastKnownGoodChipEpochTime (seconds : UInt32)
  | setClockRealTime (micros : UInt64)
  deriving DecidableEq

/-- **The members of the delegate and what it works on**: the two times
kept elsewhere, the paths marked dirty, the calls of the setters, and the
statuses the commands were answered with. -/
structure State where
  mUtcTime : Option UInt64
  mTimeSource : TimeSourceEnum
  lastKnownGood : UInt32
  realTime : ℕ
  dirty : List AttributePath
  calls : List SetterCall
  statuses : List Status
  deriving DecidableEq

/-- `TimeSyncDelegate::Read`. -/
def read (path : AttributePath) (s : State) : ReadOutcome :=
  if path.mEndpointId ≠ kRootEndpoint then .returns .noError
  else
    match path.mAttributeId with
    | .utcTime =>
      match s.mUtcTime with
      | some utcTime => .encode (.uint64 utcTime)
      | none => .encode .null
    | .timeSource => .encode (.uint8 s.mTimeSource)
    | .granularity => .encode (.uint8 kNoTimeGranularity)
    | .featureMap => .encode (.uint32 kFeatureMap)
    | .clusterRevision => .encode (.uint16 kClusterRevision)
    | .attributeList =>
      .encode (.attributeIds [.utcTime, .granularity, .timeSource, .generatedCommandList,
        .acceptedCommandList, .attributeList, .featureMap, .clusterRevision])
    | .acceptedCommandList => .encode (.commandIds [.setUTCTime])
    | .generatedCommandList => .encode (.commandIds [])
    | .timeZone | .dstOffset => .returns (.imGlobalStatus .unsupportedAttribute)
    | .other _ => .returns (.imGlobalStatus .unsupportedAttribute)

/-- `TimeSyncDelegate::Write`, which does not look at the value. -/
def write (path : AttributePath) : ChipError :=
  if path.mEndpointId ≠ kRootEndpoint then .noError else .imGlobalStatus .unsupportedWrite

/-- `FabricTable::SetLastKnownGoodChipEpochTime`, answering `err`. -/
def setLastKnownGoodChipEpochTime (err : ChipError) (seconds : UInt32) (s : State) : State :=
  { s with
    lastKnownGood := if err = .noError then seconds else s.lastKnownGood
    calls := s.calls ++ [.setLastKnownGoodChipEpochTime seconds] }

/-- `SystemClock().SetClock_RealTime`, answering `err`. -/
def setClockRealTime (err : ChipError) (micros : UInt64) (s : State) : State :=
  { s with
    realTime := if err = .noError then micros.toNat else s.realTime
    calls := s.calls ++ [.setClockRealTime micros] }

/-- `SetDirty` of the reporting engine. -/
def setDirty (path : AttributePath) (s : State) : State := { s with dirty := s.dirty ++ [path] }

/-- `TimeSyncDelegate::HandleSetUtcTimeCommand`. The answers of the setters
only decide what is logged. -/
def handleSetUtcTimeCommand (epoch : EpochConversion) (answers : Answers) (commandData : SetUTCTime)
    (s : State) : Status × State :=
  match epoch.chipEpochToUnixEpochMicros commandData.utcTime with
  | none => (.invalidCommand, s)
  | some unixEpochMicros =>
    let s := { s with
      mUtcTime := some commandData.utcTime
      mTimeSource := commandData.timeSource.getD .kNone }
    let chipEpochSeconds := commandData.utcTime / kMicrosecondsPerSecond
    let s :=
      if chipEpochSeconds ≤ UINT32_MAX then
        setLastKnownGoodChipEpochTime answers.lastKnownGood chipEpochSeconds.toUInt32 s
      else s
    let s := setClockRealTime answers.clock unixEpochMicros s
    let s := if answers.engine then setDirty ⟨kRootEndpoint, .utcTime⟩ s else s
    (.success, s)

/-- `emberAfTimeSynchronizationClusterSetUTCTimeCallback`. -/
def setUTCTimeCallback (epoch : EpochConversion) (answers : Answers) (commandData : SetUTCTime)
    (s : State) : State :=
  let (status, s) := handleSetUtcTimeCommand epoch answers commandData s
  { s with statuses := s.statuses ++ [status] }

/-- What happens to the delegate. -/
inductive Step
  /-- A `SetUTCTime` command. -/
  | command (commandData : SetUTCTime) (answers : Answers)
  /-- A read of an attribute. -/
  | read (path : AttributePath)
  /-- A write of an attribute. -/
  | write (path : AttributePath)
  /-- Time passes. -/
  | advance (micros : ℕ)
  deriving DecidableEq

/-- The steps: reads and writes answer and change nothing. -/
def step (epoch : EpochConversion) (s : State) : Step → Option State
  | .command commandData answers => some (setUTCTimeCallback epoch answers commandData s)
  | .read _ => some s
  | .write _ => some s
  | .advance micros => some { s with realTime := s.realTime + micros }

/-- The delegate as constructed, with the times of the surroundings. -/
def boot (lastKnownGood : UInt32) (realTime : ℕ) : State where
  mUtcTime := none
  mTimeSource := .kNone
  lastKnownGood := lastKnownGood
  realTime := realTime
  dirty := []
  calls := []
  statuses := []

end TimeSync

/-- **The delegate as a machine.** -/
def timeSync (epoch : EpochConversion) (lastKnownGood : UInt32) (realTime : ℕ) :
    Machine TimeSync.State TimeSync.Step where
  init := TimeSync.boot lastKnownGood realTime
  step := TimeSync.step epoch

end SoilSensor
