import SoilSensor.Common.Machine
import SoilSensor.Matter.Model.Attribute
import Mathlib.Data.Int.Notation
/-!
# Model — the soil moisture sensor

`soil_moisture_sensor.cpp` of a build with `CONFIG_SOIL_ENDPOINT`; without
it `Init` is empty. The measurement cluster is not modelled, but for what it
holds: `SetSoilMoistureMeasuredValue` is a parameter, of which only what it
does within the limits is known. The random draws and the answers of
`StartTimer` come with each call.
-/

namespace SoilSensor

/-- `chip::Percent`. -/
abbrev Percent := UInt8

/-- `MeasurementTypeEnum`, as far as it is named. -/
inductive MeasurementTypeEnum
  | kSoilMoisture
  deriving DecidableEq

/-- `MeasurementAccuracyRangeStruct`. -/
structure MeasurementAccuracyRange where
  rangeMin : ℤ
  rangeMax : ℤ
  percentMax : Option UInt16
  deriving DecidableEq

/-- The type of `SoilMoistureMeasurementLimits`. -/
structure MeasurementLimits where
  measurementType : MeasurementTypeEnum
  measured : Bool
  minMeasuredValue : ℤ
  maxMeasuredValue : ℤ
  accuracyRanges : List MeasurementAccuracyRange
  deriving DecidableEq

/-- A value within the limits. -/
def MeasurementLimits.Admits (limits : MeasurementLimits) (v : Percent) : Prop :=
  limits.minMeasuredValue ≤ v.toNat ∧ (v.toNat : ℤ) ≤ limits.maxMeasuredValue

instance {limits : MeasurementLimits} {v : Percent} : Decidable (limits.Admits v) :=
  inferInstanceAs (Decidable (_ ∧ _))

/-- `sSoilCluster`, once it is created: the endpoint and the limits given to
`Create`, and the measured value it publishes. -/
structure SoilCluster where
  endpoint : EndpointId
  limits : MeasurementLimits
  measuredValue : Option Percent
  deriving DecidableEq

/-- **`SoilMeasurementCluster`**: what a cluster of the limits publishes
after `SetSoilMoistureMeasuredValue`. A value within them is stored. -/
structure SoilMeasurementCluster where
  setSoilMoistureMeasuredValue :
    MeasurementLimits → Option Percent → Option Percent → Option Percent
  stores : ∀ limits v held, limits.Admits v →
    setSoilMoistureMeasuredValue limits (some v) held = some v

/-- The file's statics, and whether its timer is started. -/
structure SoilState where
  sSoilCluster : Option SoilCluster
  gSoilLast : UInt8
  timerStarted : Bool
  deriving DecidableEq

/-- Static storage. -/
def SoilState.boot : SoilState := ⟨none, 101, false⟩

namespace SoilMoistureSensor

variable (C : SoilMeasurementCluster)

/-- `kSoilEndpoint`. -/
def kSoilEndpoint : EndpointId := 1

/-- `kSoilUpdateMs`. -/
def kSoilUpdateMs : UInt32 := 5000

/-- The value `SoilUpdateTimer` makes of a draw. -/
def nextValue (draw : UInt16) (gSoilLast : UInt8) : UInt8 :=
  let v := (draw % 101).toUInt8
  if v = gSoilLast then UInt8.ofNat ((v.toNat + 1) % 101) else v

/-- `SetSoilMoistureMeasuredValue` of the cluster. -/
def setSoilMoistureMeasuredValue (value : Option Percent) (c : SoilCluster) : SoilCluster :=
  { c with
    measuredValue := C.setSoilMoistureMeasuredValue c.limits value c.measuredValue }

/-- `SoilUpdateTimer`. With a `layer` the timer is started again, which
`StartTimer` accepts or not. -/
def soilUpdateTimer (layer : Bool) (draw : UInt16) (accepted : Bool) (s : SoilState) : SoilState :=
  let v := nextValue draw s.gSoilLast
  let cluster := s.sSoilCluster.map (setSoilMoistureMeasuredValue C (some v))
  let s := { s with sSoilCluster := cluster, gSoilLast := v }
  if layer then { s with timerStarted := accepted } else s

/-- `kRanges`. -/
def kRanges : List MeasurementAccuracyRange := [⟨0, 100, some 5⟩]

/-- The `limits` of `Init`. -/
def limits : MeasurementLimits where
  measurementType := .kSoilMoisture
  measured := true
  minMeasuredValue := 0
  maxMeasuredValue := 100
  accuracyRanges := kRanges

/-- `Init`. -/
def init (draw : UInt16) (accepted : Bool) (s : SoilState) : SoilState :=
  let s := { s with sSoilCluster := some ⟨kSoilEndpoint, limits, none⟩ }
  let s := soilUpdateTimer C false draw accepted s
  { s with timerStarted := accepted }

/-- **A tick**: `Init`, or the expiry of the timer. -/
inductive Tick
  | init (draw : UInt16) (accepted : Bool)
  | expire (draw : UInt16) (accepted : Bool)
  deriving DecidableEq

end SoilMoistureSensor

open SoilMoistureSensor in
/-- **The sensor, tick by tick.** `main` calls `Init` once, and a timer that
is not started does not expire; one that expires is started no more. -/
def soilSensor (C : SoilMeasurementCluster) : Machine SoilState Tick where
  init := .boot
  step
    | s, .init draw accepted =>
      if s.sSoilCluster.isNone then some (SoilMoistureSensor.init C draw accepted s) else none
    | s, .expire draw accepted =>
      if s.timerStarted then
        some (soilUpdateTimer C true draw accepted { s with timerStarted := false })
      else none

end SoilSensor
