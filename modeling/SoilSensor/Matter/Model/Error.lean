import Mathlib.Data.Nat.Notation
/-!
# Model — the error values of the Matter stack

The values of `CHIP_ERROR` the application names, and every other one by
its code.
-/

namespace SoilSensor

/-- `Protocols::InteractionModel::Status`, as far as the application
answers with it. -/
inductive Status
  | success
  | invalidCommand
  | unsupportedAttribute
  | unsupportedWrite
  deriving DecidableEq

/-- `CHIP_ERROR`. -/
inductive ChipError
  | noError
  | notFound
  | persistedStorageValueNotFound
  | keyNotFound
  | notImplemented
  | unsupportedChipFeature
  /-- `CHIP_IM_GLOBAL_STATUS`. -/
  | imGlobalStatus (status : Status)
  | other (code : ℕ)
  deriving DecidableEq

end SoilSensor
