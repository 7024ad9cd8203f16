import SoilSensor.Common.Machine
import SoilSensor.Matter.Model.DataModel
/-!
# Model — the configuration at boot

`ConfigureBasicInformation` of `app_config.cpp`, over the store of
`ConfigurationMgr()`, which keeps a value as it was stored. How a stored
value is read is a parameter, of which only this is known: a valid country
code and the default date are read as they are. What the two stores answer
comes with each boot; a store that fails changes nothing.
-/

namespace SoilSensor

/-- **A valid country code**: what the `static_assert`s ask of
`kDefaultCountryCode`, and what others may store. -/
structure CountryCode (kMaxLocationLength : ℕ) where
  chars : List Char
  nonempty : 0 < chars.length
  fits : chars.length ≤ kMaxLocationLength

/-- What `GetManufacturingDate` reads. -/
structure ManufacturingDate where
  year : UInt16
  month : UInt8
  day : UInt8
  deriving DecidableEq

/-- `kManufacturingDate`. -/
def kManufacturingDate : List Char := ['2', '0', '2', '4', '-', '0', '1', '-', '1', '5']

/-- **How the stored values are read.** A getter that fails reads nothing:
`ConfigureBasicInformation` does not tell one error from another. -/
structure StoreReader (kMaxLocationLength : ℕ) where
  readCountryCode : List Char → Option (List Char)
  readManufacturingDate : List Char → Option ManufacturingDate
  reads_countryCode : ∀ code : CountryCode kMaxLocationLength,
    readCountryCode code.chars = some code.chars
  reads_default : readManufacturingDate kManufacturingDate = some ⟨2024, 1, 15⟩

/-- What is persisted. -/
structure Persisted where
  countryCode : Option (List Char)
  manufacturingDate : Option (List Char)
  deriving DecidableEq

/-- The stores of `ConfigureBasicInformation`. -/
inductive StoreCall
  | storeCountryCode (code : List Char)
  | storeManufacturingDate (date : List Char)
  deriving DecidableEq

/-- What they answer at one boot. -/
structure StoreAnswers where
  storeCountryCode : ChipError
  storeManufacturingDate : ChipError
  deriving DecidableEq

/-- **What a boot does**: the attributes it enables, the stores it makes
with their results, and what it leaves. -/
structure BootOutcome where
  optionalAttributes : List AttributeId
  calls : List (StoreCall × ChipError)
  persisted : Persisted

namespace AppConfig

variable {kMaxLocationLength : ℕ} (R : StoreReader kMaxLocationLength)
variable (kDefaultCountryCode : CountryCode kMaxLocationLength)

/-- `GetCountryCode`. -/
def getCountryCode (p : Persisted) : Option (List Char) := p.countryCode.bind R.readCountryCode

/-- `GetManufacturingDate`. -/
def getManufacturingDate (p : Persisted) : Option ManufacturingDate :=
  p.manufacturingDate.bind R.readManufacturingDate

/-- The test of the country code. -/
def storesCountryCode (p : Persisted) : Bool :=
  match getCountryCode R p with
  | none => true
  | some countryCode => countryCode.length ≠ kDefaultCountryCode.chars.length

/-- The test of the manufacturing date. -/
def storesManufacturingDate (p : Persisted) : Bool :=
  match getManufacturingDate R p with
  | none => true
  | some date => date.year ≠ 2024 || date.month ≠ 1 || date.day ≠ 15

/-- The half of `ConfigureBasicInformation` that is about the country
code. -/
def configureCountryCode (err : ChipError) (p : Persisted) :
    List (StoreCall × ChipError) × Persisted :=
  if storesCountryCode R kDefaultCountryCode p then
    ([(.storeCountryCode kDefaultCountryCode.chars, err)],
      if err = .noError then { p with countryCode := some kDefaultCountryCode.chars } else p)
  else ([], p)

/-- The half that is about the manufacturing date. -/
def configureManufacturingDate (err : ChipError) (p : Persisted) :
    List (StoreCall × ChipError) × Persisted :=
  if storesManufacturingDate R p then
    ([(.storeManufacturingDate kManufacturingDate, err)],
      if err = .noError then { p with manufacturingDate := some kManufacturingDate } else p)
  else ([], p)

/-- `ConfigureBasicInformation`. -/
def configureBasicInformation (answers : StoreAnswers) (p : Persisted) : BootOutcome :=
  let (codeCalls, p) := configureCountryCode R kDefaultCountryCode answers.storeCountryCode p
  let (dateCalls, p) := configureManufacturingDate R answers.storeManufacturingDate p
  ⟨DataModel.optionalAttributes, codeCalls ++ dateCalls, p⟩

/-- What changes the persisted values: a boot, and the writes of others. -/
inductive ConfigAct (kMaxLocationLength : ℕ)
  | boot (answers : StoreAnswers)
  | writeCountryCode (code : CountryCode kMaxLocationLength)
  | writeManufacturingDate (date : List Char)

end AppConfig

open AppConfig in
/-- **The persisted values, from boot to boot**, whatever they are at
first. A date that is not read as one is not valid, and not written. -/
def configuration {kMaxLocationLength : ℕ} (R : StoreReader kMaxLocationLength)
    (kDefaultCountryCode : CountryCode kMaxLocationLength) (stored : Persisted) :
    Machine Persisted (ConfigAct kMaxLocationLength) where
  init := stored
  step
    | p, .boot answers =>
      some (configureBasicInformation R kDefaultCountryCode answers p).persisted
    | p, .writeCountryCode code => some { p with countryCode := some code.chars }
    | p, .writeManufacturingDate date =>
      if (R.readManufacturingDate date).isSome then
        some { p with manufacturingDate := some date }
      else none

end SoilSensor
