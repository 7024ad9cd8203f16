import SoilSensor.App.Hold
import SoilSensor.App.Accounts
import SoilSensor.App.Stages
import SoilSensor.App.TwoStage
import SoilSensor.App.Release
import SoilSensor.App.Operations
import SoilSensor.App.Blink
import SoilSensor.App.Window
import SoilSensor.App.Toggle
import SoilSensor.App.Status
import SoilSensor.App.Lamps
import SoilSensor.Led.Phase
import SoilSensor.Led.Lamp
import SoilSensor.Reset.Model.Wipe
import SoilSensor.Reset.Errors
import SoilSensor.Reset.Isolation
import SoilSensor.Reset.Model.FactoryReset
import SoilSensor.Reset.Save
import SoilSensor.Reset.Device
import SoilSensor.Reset.Survivors
import SoilSensor.TimeSync.Model.Delegate
import SoilSensor.TimeSync.Command
import SoilSensor.TimeSync.Clock
import SoilSensor.TimeSync.Report
import SoilSensor.Matter.Model.Error
import SoilSensor.Matter.Model.Attribute
import SoilSensor.Matter.Model.Overrides
import SoilSensor.Matter.Model.DataModel
import SoilSensor.Matter.Model.Provider
import SoilSensor.Matter.Answers
import SoilSensor.Matter.AttributeList
import SoilSensor.Matter.Shapes
import SoilSensor.Matter.Frame
import SoilSensor.Matter.Proxy
import SoilSensor.Matter.Identify
import SoilSensor.Soil.Update
import SoilSensor.Common.Defaulted
import SoilSensor.Config.Model.AppConfig
import SoilSensor.Config.Boot
import SoilSensor.Matter.Model.Registration
import SoilSensor.Matter.Guards
import SoilSensor.App.Course
import SoilSensor.Boot.Order
import SoilSensor.Boot.Registering
import SoilSensor.Boot.Client
import SoilSensor.Config.Wear
import SoilSensor.Common.Clock
import SoilSensor.App.Patience
import SoilSensor.Soil.Cadence
import SoilSensor.Common.Numeral
import SoilSensor.Boot.DeviceName
import SoilSensor.Matter.Reports
import SoilSensor.Reset.Outcome
import SoilSensor.Common.Fairness
import SoilSensor.App.Kept
import SoilSensor.Reset.Fair
import SoilSensor.App.Turn
import SoilSensor.App.Lively
