import SoilSensor.Common.Ledger
import SoilSensor.Config.Boot
/-!
# How often a default is stored

Every boot tests whether its defaults are due, and a store is a write to
flash. A default that has been stored passes its own test, so that only a
write by others makes it due again: over any number of boots there are no
more successful stores than such writes, and one (`defaults_stored_once`).
-/

namespace SoilSensor

namespace AppConfig

variable {k : ℕ} {R : StoreReader k} {d : CountryCode k} {stored p p' : Persisted}
variable {a : ConfigAct k} {tr : List (Transition Persisted (ConfigAct k))}

/-- The act is a boot that makes the store, and it is accepted. -/
def Stores (R : StoreReader k) (d : CountryCode k) (call : StoreCall) (p : Persisted) :
    ConfigAct k → Bool
  | .boot answers => (call, .noError) ∈ (configureBasicInformation R d answers p).calls
  | _ => false

/-- The act is a country code written by others. -/
def ConfigAct.writesCountryCode : ConfigAct k → Bool
  | .writeCountryCode _ => true
  | _ => false

/-- The act is a manufacturing date written by others. -/
def ConfigAct.writesManufacturingDate : ConfigAct k → Bool
  | .writeManufacturingDate _ => true
  | _ => false

/-- A start whose store is accepted leaves nothing due. -/
theorem due_start {τ α : Type*} {D : Defaulted τ α} {held : Option τ} {accepted : Bool} :
    (D.due (D.start accepted held)).toNat + (D.due held && accepted).toNat =
      (D.due held).toNat := by
  have hdefault : D.due (some D.default) = false := by
    have hget : D.get (some D.default) = some D.value := D.read_default
    rw [Defaulted.due_of_get_eq_some hget, D.keeps_value]
    rfl
  cases hdue : D.due held with
  | false => simp [Defaulted.start, hdue]
  | true => cases accepted <;> simp [Defaulted.start, hdue, hdefault]

theorem stores_countryCode {answers : StoreAnswers} :
    Stores R d (.storeCountryCode d.chars) p (.boot answers) =
      ((countryCode R d).due p.countryCode && (answers.storeCountryCode = .noError)) := by
  rw [Stores, configureBasicInformation_eq, storesCountryCode_eq, storesManufacturingDate_eq]
  cases (countryCode R d).due p.countryCode <;>
  cases (manufacturingDate R).due p.manufacturingDate <;> simp [eq_comm]

theorem stores_manufacturingDate {answers : StoreAnswers} :
    Stores R d (.storeManufacturingDate kManufacturingDate) p (.boot answers) =
      ((manufacturingDate R).due p.manufacturingDate &&
        (answers.storeManufacturingDate = .noError)) := by
  rw [Stores, configureBasicInformation_eq, storesCountryCode_eq, storesManufacturingDate_eq]
  cases (countryCode R d).due p.countryCode <;>
  cases (manufacturingDate R).due p.manufacturingDate <;> simp [eq_comm]

/-- **A store of the country code uses up that it was due.** -/
theorem countryCode_step (h : (configuration R d stored).step p a = some p') :
    ((countryCode R d).due p'.countryCode).toNat +
        (Stores R d (.storeCountryCode d.chars) p a).toNat ≤
      ((countryCode R d).due p.countryCode).toNat + a.writesCountryCode.toNat := by
  cases a with
  | boot answers =>
    obtain rfl := Option.some.inj h
    rw [stores_countryCode, configureBasicInformation_eq, due_start]
    omega
  | writeCountryCode code =>
    obtain rfl := Option.some.inj h
    have hle := Bool.toNat_le ((countryCode R d).due (some code.chars))
    exact Nat.le_trans hle (Nat.le_add_left 1 _)
  | writeManufacturingDate date =>
    simp only [configuration] at h
    split_ifs at h
    obtain rfl := Option.some.inj h
    exact Nat.le_refl _

/-- **And so of the date.** -/
theorem manufacturingDate_step (h : (configuration R d stored).step p a = some p') :
    ((manufacturingDate R).due p'.manufacturingDate).toNat +
        (Stores R d (.storeManufacturingDate kManufacturingDate) p a).toNat ≤
      ((manufacturingDate R).due p.manufacturingDate).toNat +
        a.writesManufacturingDate.toNat := by
  cases a with
  | boot answers =>
    obtain rfl := Option.some.inj h
    rw [stores_manufacturingDate, configureBasicInformation_eq, due_start]
    omega
  | writeCountryCode code =>
    obtain rfl := Option.some.inj h
    exact Nat.le_refl _
  | writeManufacturingDate date =>
    simp only [configuration] at h
    split_ifs at h
    obtain rfl := Option.some.inj h
    have hle := Bool.toNat_le ((manufacturingDate R).due (some date))
    exact Nat.le_trans hle (Nat.le_add_left 1 _)

/-- **Defaults are not stored again and again.** Over any number of boots,
with stores refused or not and with any values written by others in
between, each default is stored successfully at most once more than others
have written the value; and not once more where it was not due at first. -/
theorem defaults_stored_once (R : StoreReader k) (d : CountryCode k) (stored : Persisted)
    {tr : List (Transition Persisted (ConfigAct k))} {p : Persisted}
    (r : (configuration R d stored).Run tr p) :
    tr.countP (fun t => Stores R d (.storeCountryCode d.chars) t.src t.act) ≤
        tr.countP (fun t => t.act.writesCountryCode) + (storesCountryCode R d stored).toNat ∧
      tr.countP (fun t => Stores R d (.storeManufacturingDate kManufacturingDate) t.src t.act) ≤
        tr.countP (fun t => t.act.writesManufacturingDate) +
          (storesManufacturingDate R stored).toNat := by
  have hcode := r.spent (V := fun p => ((countryCode R d).due p.countryCode).toNat)
    (c := Stores R d (.storeCountryCode d.chars)) (p := fun _ a => a.writesCountryCode)
    countryCode_step
  have hdate := r.spent (V := fun p => ((manufacturingDate R).due p.manufacturingDate).toNat)
    (c := Stores R d (.storeManufacturingDate kManufacturingDate))
    (p := fun _ a => a.writesManufacturingDate) manufacturingDate_step
  rw [storesCountryCode_eq, storesManufacturingDate_eq]
  change _ + _ ≤ ((countryCode R d).due stored.countryCode).toNat + _ at hcode
  change _ + _ ≤ ((manufacturingDate R).due stored.manufacturingDate).toNat + _ at hdate
  omega

/-- Three boots of a new device, the first refused by the store, and a code
of another length written before the last. -/
theorem defaults_stored_once_of_three : ∃ tr p,
    (configuration (isoReader 2) swedish ⟨none, none⟩).Run tr p ∧
      tr.countP (fun t => Stores (isoReader 2) swedish (.storeCountryCode ['S', 'E']) t.src t.act) =
        2 ∧
      tr.countP (fun t => Stores (isoReader 2) swedish (.storeCountryCode ['S', 'E']) t.src t.act) ≤
        tr.countP (fun t => t.act.writesCountryCode) + 1 := by
  obtain ⟨tr, p, r, htwo⟩ := (configuration (isoReader 2) swedish ⟨none, none⟩).exists_run_of_exec
    [.boot ⟨.other 1, .noError⟩, .boot ⟨.noError, .noError⟩,
      .writeCountryCode ⟨['S'], by decide, by decide⟩, .boot ⟨.noError, .noError⟩]
    (fun tr _ => tr.countP (fun t =>
      Stores (isoReader 2) swedish (.storeCountryCode ['S', 'E']) t.src t.act) = 2)
    (by decide +kernel)
  exact ⟨tr, p, r, htwo, (defaults_stored_once _ _ _ r).1⟩

end AppConfig

end SoilSensor
