import SoilSensor.Common.Defaulted
import SoilSensor.Config.Model.AppConfig
/-!
# What a boot makes of provisioned values

A default is to be stored when nothing has been provisioned yet. The test
that stands for this asks more of a value than that it is read: a country
code must have the default's length, and a date must be the default date. A
value that does not pass is overwritten (`provisioned_overwritten`).

Both halves of `ConfigureBasicInformation` are a start of a value with a
default (`Defaulted.start`), each with its own test. A value that was read
once is read ever after, by boots and by the writes of others, so that what
a run does is decided at each of its boots (`provisioned_kept_iff`).
-/

namespace SoilSensor

namespace AppConfig

variable {k : ℕ} {R : StoreReader k} {d : CountryCode k} {stored p p' : Persisted}
variable {a : ConfigAct k} {answers : StoreAnswers} {tr : List (Transition Persisted (ConfigAct k))}

/-! ## The two values -/

/-- The country code, with its default. -/
def countryCode (R : StoreReader k) (d : CountryCode k) : Defaulted (List Char) (List Char) where
  read := R.readCountryCode
  keeps code := code.length = d.chars.length
  default := d.chars
  value := d.chars
  read_default := R.reads_countryCode d
  keeps_value := decide_eq_true rfl

/-- The manufacturing date, with its default. -/
def manufacturingDate (R : StoreReader k) : Defaulted (List Char) ManufacturingDate where
  read := R.readManufacturingDate
  keeps date := date = ⟨2024, 1, 15⟩
  default := kManufacturingDate
  value := ⟨2024, 1, 15⟩
  read_default := R.reads_default
  keeps_value := decide_eq_true rfl

theorem get_countryCode : (countryCode R d).get p.countryCode = getCountryCode R p := rfl

theorem get_manufacturingDate :
    (manufacturingDate R).get p.manufacturingDate = getManufacturingDate R p := rfl

theorem storesCountryCode_eq :
    storesCountryCode R d p = (countryCode R d).due p.countryCode := by
  rw [storesCountryCode, ← get_countryCode (d := d)]
  cases hget : (countryCode R d).get p.countryCode with
  | none => rw [Defaulted.due_of_get_eq_none hget]
  | some code =>
    rw [Defaulted.due_of_get_eq_some hget]
    simp [countryCode]

theorem storesManufacturingDate_eq :
    storesManufacturingDate R p = (manufacturingDate R).due p.manufacturingDate := by
  rw [storesManufacturingDate, ← get_manufacturingDate]
  cases hget : (manufacturingDate R).get p.manufacturingDate with
  | none => rw [Defaulted.due_of_get_eq_none hget]
  | some date =>
    rw [Defaulted.due_of_get_eq_some hget]
    obtain ⟨year, month, day⟩ := date
    simp [manufacturingDate, Bool.or_assoc]

/-! ## One boot -/

/-- The first half is a start of the country code. -/
theorem configureCountryCode_eq {err : ChipError} : configureCountryCode R d err p =
    (if storesCountryCode R d p then [(.storeCountryCode d.chars, err)] else [],
      { p with countryCode := (countryCode R d).start (err = .noError) p.countryCode }) := by
  rw [configureCountryCode, storesCountryCode_eq, Defaulted.start]
  cases (countryCode R d).due p.countryCode with
  | false => rfl
  | true => by_cases herr : err = .noError <;> simp [herr, countryCode]

/-- The second is one of the date. -/
theorem configureManufacturingDate_eq {err : ChipError} : configureManufacturingDate R err p =
    (if storesManufacturingDate R p then [(.storeManufacturingDate kManufacturingDate, err)]
      else [],
      { p with
        manufacturingDate :=
          (manufacturingDate R).start (err = .noError) p.manufacturingDate }) := by
  rw [configureManufacturingDate, storesManufacturingDate_eq, Defaulted.start]
  cases (manufacturingDate R).due p.manufacturingDate with
  | false => rfl
  | true => by_cases herr : err = .noError <;> simp [herr, manufacturingDate]

/-- **A boot is the two of them**, each with its own store. -/
theorem configureBasicInformation_eq : configureBasicInformation R d answers p =
    ⟨DataModel.optionalAttributes,
      (if storesCountryCode R d p then [(.storeCountryCode d.chars, answers.storeCountryCode)]
        else []) ++
      (if storesManufacturingDate R p then
        [(.storeManufacturingDate kManufacturingDate, answers.storeManufacturingDate)] else []),
      ⟨(countryCode R d).start (answers.storeCountryCode = .noError) p.countryCode,
        (manufacturingDate R).start (answers.storeManufacturingDate = .noError)
          p.manufacturingDate⟩⟩ := by
  rw [configureBasicInformation, configureCountryCode_eq]
  change BootOutcome.mk _ (_ ++ (configureManufacturingDate R _ _).1)
    (configureManufacturingDate R _ _).2 = _
  rw [configureManufacturingDate_eq]
  rfl

/-- **A boot keeps what is provisioned**, and puts the default where nothing
is. -/
structure Kept (R : StoreReader k) (d : CountryCode k) (p p' : Persisted) : Prop where
  countryCode : ∀ code, getCountryCode R p = some code → getCountryCode R p' = some code
  manufacturingDate : ∀ date, getManufacturingDate R p = some date →
    getManufacturingDate R p' = some date
  missingCountryCode : getCountryCode R p = none → getCountryCode R p' = some d.chars
  missingManufacturingDate : getManufacturingDate R p = none →
    getManufacturingDate R p' = some ⟨2024, 1, 15⟩

/-- **What spares the values at a boot.** One that is read passes its test,
or its store is refused, which spares it as long as nothing is settled; and
the store of one that is missing is accepted. -/
structure Spared (R : StoreReader k) (d : CountryCode k) (answers : StoreAnswers) (p : Persisted)
    (settled : Prop) : Prop where
  countryCode : ∀ code, getCountryCode R p = some code → code.length = d.chars.length ∨
    answers.storeCountryCode ≠ .noError ∧ ¬ settled
  manufacturingDate : ∀ date, getManufacturingDate R p = some date → date = ⟨2024, 1, 15⟩ ∨
    answers.storeManufacturingDate ≠ .noError ∧ ¬ settled
  missingCountryCode : getCountryCode R p = none → answers.storeCountryCode = .noError
  missingManufacturingDate : getManufacturingDate R p = none →
    answers.storeManufacturingDate = .noError

/-- Both values are read. -/
def Readable (R : StoreReader k) (p : Persisted) : Prop :=
  (getCountryCode R p).isSome ∧ (getManufacturingDate R p).isSome

theorem calls_eq_nil_iff : (configureBasicInformation R d answers p).calls = [] ↔
    (countryCode R d).due p.countryCode = false ∧
      (manufacturingDate R).due p.manufacturingDate = false := by
  rw [configureBasicInformation_eq, storesCountryCode_eq, storesManufacturingDate_eq]
  cases (countryCode R d).due p.countryCode <;>
  cases (manufacturingDate R).due p.manufacturingDate <;> simp

/-- **One boot.** It keeps what is provisioned, and stores nothing where
something is settled, exactly if it spares the values. -/
theorem kept_iff {settled : Prop} (hread : settled → Readable R p) :
    Kept R d p (configureBasicInformation R d answers p).persisted ∧
        (settled → (configureBasicInformation R d answers p).calls = []) ↔
      Spared R d answers p settled := by
  have hcode := @Defaulted.spares_start_iff _ _ (countryCode R d) p.countryCode
    (answers.storeCountryCode = .noError) settled fun hs => (hread hs).1
  have hdate := @Defaulted.spares_start_iff _ _ (manufacturingDate R) p.manufacturingDate
    (answers.storeManufacturingDate = .noError) settled fun hs => (hread hs).2
  simp only [decide_eq_true_eq, decide_eq_false_iff_not] at hcode hdate
  rw [calls_eq_nil_iff, configureBasicInformation_eq]
  constructor
  · rintro ⟨hkept, hnone⟩
    have hc := hcode.1 ⟨⟨hkept.countryCode, hkept.missingCountryCode⟩, fun hs => (hnone hs).1⟩
    have hd := hdate.1
      ⟨⟨hkept.manufacturingDate, hkept.missingManufacturingDate⟩, fun hs => (hnone hs).2⟩
    refine ⟨fun code hget => ?_, fun date hget => ?_, hc.1, hd.1⟩
    · exact (hc.2 code hget).imp_left of_decide_eq_true
    · exact (hd.2 date hget).imp_left of_decide_eq_true
  · intro h
    obtain ⟨hkeptCode, hdueCode⟩ := hcode.2
      ⟨h.missingCountryCode, fun code hget => (h.countryCode code hget).imp_left decide_eq_true⟩
    obtain ⟨hkeptDate, hdueDate⟩ := hdate.2 ⟨h.missingManufacturingDate,
      fun date hget => (h.manufacturingDate date hget).imp_left decide_eq_true⟩
    exact ⟨⟨hkeptCode.kept, hkeptDate.kept, hkeptCode.filled, hkeptDate.filled⟩,
      fun hs => ⟨hdueCode hs, hdueDate hs⟩⟩

/-! ## Runs -/

/-- **A boot whose stores succeeded**: each of them returned
`CHIP_NO_ERROR`. -/
def Succeeded (R : StoreReader k) (d : CountryCode k) (u : Transition Persisted (ConfigAct k)) :
    Prop :=
  ∃ answers, u.act = .boot answers ∧
    ∀ c ∈ (configureBasicInformation R d answers u.src).calls, c.2 = .noError

/-- **A boot that settles the values**: no store that its tests ask for is
refused. -/
def Settles (R : StoreReader k) (d : CountryCode k) (u : Transition Persisted (ConfigAct k)) :
    Prop :=
  ∃ answers, u.act = .boot answers ∧
    (storesCountryCode R d u.src → answers.storeCountryCode = .noError) ∧
    (storesManufacturingDate R u.src → answers.storeManufacturingDate = .noError)

theorem succeeded_iff {u : Transition Persisted (ConfigAct k)} :
    Succeeded R d u ↔ Settles R d u := by
  refine exists_congr fun answers => and_congr_right fun _ => ?_
  rw [configureBasicInformation_eq]
  cases storesCountryCode R d u.src <;> cases storesManufacturingDate R u.src <;> simp

/-- **What is readable stays so**, at a boot and at a write. -/
theorem Readable.step (h : Readable R p) (hstep : (configuration R d stored).step p a = some p') :
    Readable R p' := by
  cases a with
  | boot answers =>
    cases hstep
    rw [configureBasicInformation_eq]
    exact ⟨Defaulted.isSome_get_start h.1, Defaulted.isSome_get_start h.2⟩
  | writeCountryCode code =>
    cases hstep
    refine ⟨?_, h.2⟩
    change (R.readCountryCode code.chars).isSome
    rw [R.reads_countryCode]
    rfl
  | writeManufacturingDate date =>
    simp only [configuration] at hstep
    split_ifs at hstep with hvalid
    cases hstep
    exact ⟨h.1, hvalid⟩

/-- Once the values are settled they are readable. -/
theorem readable_of_settles {u : Transition Persisted (ConfigAct k)} (h : Settles R d u)
    (hstep : (configuration R d stored).step u.src u.act = some u.dst) : Readable R u.dst := by
  obtain ⟨answers, hact, hcode, hdate⟩ := h
  rw [hact] at hstep
  have hdst : (configureBasicInformation R d answers u.src).persisted = u.dst :=
    Option.some.inj hstep
  rw [storesCountryCode_eq] at hcode
  rw [storesManufacturingDate_eq] at hdate
  rw [← hdst, configureBasicInformation_eq]
  exact ⟨Defaulted.isSome_get_start_of_due fun hdue => decide_eq_true (hcode hdue),
    Defaulted.isSome_get_start_of_due fun hdue => decide_eq_true (hdate hdue)⟩

theorem readable_of_run (r : (configuration R d stored).Run tr p)
    (h : ∃ u ∈ tr, Settles R d u) : Readable R p := by
  obtain ⟨u, hu, hsettles⟩ := h
  obtain ⟨tr₁, tr₂, heq⟩ := List.append_of_mem hu
  have hdst := readable_of_settles hsettles (r.split heq).2
  exact (r.invariant_after (G := fun _ _ => True) (fun hp _ hstep => hp.step hstep) heq hdst
    fun _ _ => trivial).1

/-- **Booting keeps provisioned values exactly if every boot spares them**:
at each boot what was read before is read after it and what was missing is
the default, and no boot after one whose stores succeeded stores
anything. -/
theorem provisioned_kept_iff (r : (configuration R d stored).Run tr p) :
    (∀ tr₁ t tr₂ answers, tr = tr₁ ++ t :: tr₂ → t.act = .boot answers →
      Kept R d t.src t.dst ∧ ((∃ u ∈ tr₁, Succeeded R d u) →
        (configureBasicInformation R d answers t.src).calls = [])) ↔
    ∀ tr₁ t tr₂ answers, tr = tr₁ ++ t :: tr₂ → t.act = .boot answers →
      Spared R d answers t.src (∃ u ∈ tr₁, Settles R d u) := by
  refine forall₄_congr fun tr₁ t tr₂ answers => imp_congr_right fun heq =>
    imp_congr_right fun hboot => ?_
  obtain ⟨r₁, hstep⟩ := r.split heq
  rw [hboot] at hstep
  have hdst : (configureBasicInformation R d answers t.src).persisted = t.dst :=
    Option.some.inj hstep
  have hsettled : (∃ u ∈ tr₁, Succeeded R d u) ↔ ∃ u ∈ tr₁, Settles R d u :=
    exists_congr fun u => and_congr_right fun _ => succeeded_iff
  rw [← hdst, hsettled]
  exact kept_iff fun hs => readable_of_run r₁ hs

/-- A number of decimal digits. -/
def readNumber (digits : List Char) : Option ℕ :=
  digits.foldlM (fun n c => if c.isDigit then some (10 * n + (c.toNat - 48)) else none) 0

/-- A reader of codes that fit, and of dates of the form of
`kManufacturingDate`. -/
def isoReader (k : ℕ) : StoreReader k where
  readCountryCode code := if code.length ≤ k then some code else none
  readManufacturingDate text :=
    if text.length = 10 ∧ text[4]? = some '-' ∧ text[7]? = some '-' then do
      let year ← readNumber (text.take 4)
      let month ← readNumber ((text.drop 5).take 2)
      let day ← readNumber (text.drop 8)
      pure ⟨UInt16.ofNat year, UInt8.ofNat month, UInt8.ofNat day⟩
    else none
  reads_countryCode code := if_pos code.fits
  reads_default := by decide

/-- The country code of `prj.conf`. -/
def swedish : CountryCode 2 := ⟨['S', 'E'], by decide, by decide⟩

/-- A first boot, and one after it that stores nothing. -/
theorem provisioned_kept_twice :
    ∃ tr p, (configuration (isoReader 2) swedish ⟨none, none⟩).Run tr p ∧ tr.length = 2 ∧
      ∀ tr₁ t tr₂ answers, tr = tr₁ ++ t :: tr₂ → t.act = .boot answers →
        Kept (isoReader 2) swedish t.src t.dst ∧
          ((∃ u ∈ tr₁, Succeeded (isoReader 2) swedish u) →
            (configureBasicInformation (isoReader 2) swedish answers t.src).calls = []) := by
  have r := ((@Machine.Run.init _ _ (configuration (isoReader 2) swedish ⟨none, none⟩)).snoc
    (a := .boot ⟨.noError, .noError⟩) rfl).snoc (a := .boot ⟨.noError, .noError⟩) rfl
  refine ⟨_, _, r, rfl, (provisioned_kept_iff r).2 fun tr₁ t tr₂ answers heq hboot => ?_⟩
  rcases tr₁ with _ | ⟨x, tr₁⟩
  · obtain ⟨rfl, -⟩ := List.cons.inj heq
    cases hboot
    exact ⟨nofun, nofun, fun _ => rfl, fun _ => rfl⟩
  · rcases tr₁ with _ | ⟨y, tr₁⟩
    · obtain ⟨-, hrest⟩ := List.cons.inj heq
      obtain ⟨rfl, -⟩ := List.cons.inj hrest
      cases hboot
      refine ⟨fun code hget => Or.inl ?_, fun date hget => Or.inl ?_, fun _ => rfl, fun _ => rfl⟩
      · rw [← Option.some.inj hget]
      · exact (Option.some.inj hget).symm
    · simp at heq

/-- **Provisioned values are overwritten** by the first boot after they are
written: a code shorter than the default's, and a date that is another. -/
theorem provisioned_overwritten :
    ∃ tr p, (configuration (isoReader 2) swedish ⟨some ['S'], none⟩).Run tr p ∧
      (tr.map (fun t => getManufacturingDate (isoReader 2) t.src) = [none, some ⟨2025, 3, 7⟩] ∧
        getManufacturingDate (isoReader 2) p = some ⟨2024, 1, 15⟩ ∧
        tr.map (fun t => getCountryCode (isoReader 2) t.src) = [some ['S'], some ['S']] ∧
        getCountryCode (isoReader 2) p = some ['S', 'E']) ∧
      ¬ ∀ tr₁ t tr₂ answers, tr = tr₁ ++ t :: tr₂ → t.act = .boot answers →
        Kept (isoReader 2) swedish t.src t.dst ∧
          ((∃ u ∈ tr₁, Succeeded (isoReader 2) swedish u) →
            (configureBasicInformation (isoReader 2) swedish answers t.src).calls = []) := by
  have hwrite : (configuration (isoReader 2) swedish ⟨some ['S'], none⟩).step ⟨some ['S'], none⟩
      (.writeManufacturingDate ['2', '0', '2', '5', '-', '0', '3', '-', '0', '7']) =
        some ⟨some ['S'], some ['2', '0', '2', '5', '-', '0', '3', '-', '0', '7']⟩ :=
    by decide
  have r := (Machine.Run.init.snoc hwrite).snoc (a := .boot ⟨.noError, .noError⟩) rfl
  refine ⟨_, _, r, by decide, fun hall => ?_⟩
  have hkept := (hall [_] _ [] ⟨.noError, .noError⟩ rfl rfl).1.manufacturingDate ⟨2025, 3, 7⟩
    (by decide)
  exact absurd hkept (by decide)

end AppConfig

end SoilSensor
