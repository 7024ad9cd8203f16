import SoilSensor.Common.Numeral
/-!
# The name that is advertised

`ConfigureDeviceName` prints the discriminator into a buffer of twenty
characters. Nothing of it is cut off, for any discriminator, and a
commissioner that reads the name gets the discriminator back
(`deviceName_tells`).
-/

namespace SoilSensor

namespace BleManager

/-- The digits of `%X`. -/
def upperHexChar (d : ℕ) : Char := if d < 10 then Char.ofNat (48 + d) else Char.ofNat (55 + d)

/-- Their values. -/
def upperHexValue (c : Char) : Option ℕ :=
  if '0' ≤ c ∧ c ≤ '9' then some (c.toNat - 48)
  else if 'A' ≤ c ∧ c ≤ 'F' then some (c.toNat - 55)
  else none

/-- `%X`. -/
def upperHex : Numeral where
  base := 16
  one_lt_base := by decide
  char := upperHexChar
  value := upperHexValue
  value_char := by decide

/-- `snprintk` into a buffer of the size: what fits before the terminator. -/
def snprintk (size : ℕ) (text : List Char) : List Char := text.take (size - 1)

/-- `sizeof(advName)`. -/
def advNameSize : ℕ := 20

/-- What stands before the discriminator. -/
def nameLead : List Char := "SoilSensor-".toList

/-- The `advName` of `ConfigureDeviceName`, which `SetDeviceName` is given. -/
def advName (disc : UInt16) : List Char :=
  snprintk advNameSize (nameLead ++ upperHex.print 3 disc.toNat)

variable {disc : UInt16}

/-- Four digits are enough. -/
theorem length_digits_disc (disc : UInt16) : (upperHex.digits disc.toNat).length ≤ 4 :=
  Numeral.length_digits_le (by omega) disc.toNat_lt

/-- **Nothing is cut off.** -/
theorem advName_eq : advName disc = nameLead ++ upperHex.print 3 disc.toNat := by
  have hlead : nameLead.length = 11 := rfl
  have hdigits := length_digits_disc disc
  rw [advName, snprintk]
  refine List.take_of_length_le ?_
  rw [List.length_append, hlead, Numeral.length_print, advNameSize]
  omega

/-- **The name tells the discriminator.** For every discriminator, of twelve
bits or not, the whole name fits into the buffer; the discriminator can be
read off it, so that devices with different ones have different names; and
the names of all discriminators of twelve bits have one length. -/
theorem deviceName_tells (disc : UInt16) :
    upperHex.parse ((advName disc).drop nameLead.length) = some disc.toNat ∧
      (advName disc).length + 1 < advNameSize ∧
      (disc < 0x1000 → (advName disc).length = 14) ∧
      ∀ disc', advName disc' = advName disc → disc' = disc := by
  have hlead : nameLead.length = 11 := rfl
  have hlength : (advName disc).length =
      11 + max 3 (upperHex.digits disc.toNat).length := by
    rw [advName_eq, List.length_append, hlead, Numeral.length_print]
  refine ⟨?_, ?_, fun hlt => ?_, fun disc' heq => ?_⟩
  · rw [advName_eq, List.drop_left]
    exact Numeral.parse_print
  · have hdigits := length_digits_disc disc
    rw [hlength, advNameSize]
    omega
  · have hlt' : disc.toNat < upperHex.base ^ 3 := UInt16.lt_iff_toNat_lt.1 hlt
    have hdigits := Numeral.length_digits_le (by omega) hlt'
    rw [hlength]
    omega
  · rw [advName_eq, advName_eq] at heq
    exact UInt16.toNat_inj.1 (Numeral.print_injective (List.append_cancel_left heq))

example : advName 0x00F = "SoilSensor-00F".toList := by decide +kernel

end BleManager

end SoilSensor
