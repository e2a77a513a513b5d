import Mathlib.Data.List.GetD
import Mathlib.Data.Nat.Digits.Lemmas
import Mathlib.Data.Nat.Log
import NodeBridge.Proofs.Staking.Market

/-
This file says how many decimal places a correction stands for, compared with the powers of ten.
The correction is divided by ten until at most one is left, so its leading digit decides whether
there is one more division than its logarithm says.
-/

namespace NodeBridge.Staking

/-- So many places are enough exactly for the numbers below twice their power of ten. -/
theorem decimalPlacesLe {correction places : Nat} :
    decimalPlaces correction ≤ places ↔ correction < 2 * 10 ^ places := by
  obtain ⟨enough, least⟩ := decimalPlacesLeast correction
  have power : 0 < 10 ^ places := Nat.pow_pos (by decide)
  rw [← Nat.div_lt_iff_lt_mul power, Nat.lt_succ_iff]
  constructor
  · intro more
    calc correction / 10 ^ places
        ≤ correction / 10 ^ decimalPlaces correction :=
          Nat.div_le_div_left (Nat.pow_le_pow_right (by decide) more) (Nat.pow_pos (by decide))
      _ ≤ 1 := enough
  · exact fun fits => least fits

theorem decimalPlacesMonotone : Monotone decimalPlaces := by
  intro smaller larger ordered
  exact decimalPlacesLe.mpr (ordered.trans_lt (decimalPlacesLe.mp le_rfl))

theorem decimalPlacesZero {correction : Nat} : decimalPlaces correction = 0 ↔ correction ≤ 1 := by
  rw [← Nat.le_zero, decimalPlacesLe, Nat.pow_zero, Nat.mul_one, Nat.lt_succ_iff]

/-- A number between two powers of ten has the places of the smaller one, and from twice this power
on there is one more. -/
theorem decimalPlacesBetween {correction places : Nat} (above : 10 ^ places ≤ correction)
    (below : correction < 10 ^ (places + 1)) :
    decimalPlaces correction = places + if 2 * 10 ^ places ≤ correction then 1 else 0 := by
  have reaches : places ≤ decimalPlaces correction := by
    have fits : correction < 2 * 10 ^ decimalPlaces correction := decimalPlacesLe.mp le_rfl
    have smaller : 10 ^ places < 10 ^ (decimalPlaces correction + 1) := by
      rw [Nat.pow_succ 10 (decimalPlaces correction)]
      omega
    exact Nat.lt_succ_iff.mp ((Nat.pow_lt_pow_iff_right (by decide)).mp smaller)
  split
  case isTrue twice =>
    have enough : decimalPlaces correction ≤ places + 1 := decimalPlacesLe.mpr (by omega)
    have needed : ¬decimalPlaces correction ≤ places := fun few =>
      Nat.not_lt_of_le twice (decimalPlacesLe.mp few)
    omega
  case isFalse once =>
    have enough : decimalPlaces correction ≤ places := decimalPlacesLe.mpr (by omega)
    omega

theorem decimalPlacesPower (power : Nat) : decimalPlaces (10 ^ power) = power := by
  have positive : 0 < 10 ^ power := Nat.pow_pos (by decide)
  rw [decimalPlacesBetween le_rfl (Nat.pow_lt_pow_succ (by decide)), if_neg (by omega),
    Nat.add_zero]

/-- The leading digit is what is left after as many divisions as the logarithm says. -/
theorem leadingDigit {number : Nat} (positive : number ≠ 0) :
    (Nat.digits 10 number).getLast? = some (number / 10 ^ Nat.log 10 number) := by
  have single : number / 10 ^ Nat.log 10 number < 10 := by
    rw [Nat.div_lt_iff_lt_mul (Nat.pow_pos (by decide)), ← Nat.pow_succ']
    exact Nat.lt_pow_succ_log_self (by decide) number
  have length := Nat.length_digits 10 number (by decide) positive
  have present : Nat.log 10 number < (Nat.digits 10 number).length := by omega
  have digit := Nat.getD_digits number (Nat.log 10 number) (b := 10) (by decide)
  rw [List.getD_eq_getElem _ _ present, Nat.mod_eq_of_lt single] at digit
  rw [List.getLast?_eq_getElem?, length, Nat.add_sub_cancel, List.getElem?_eq_getElem present,
    digit]

/-- The places of a number follow from its logarithm and its leading digit. -/
theorem decimalPlacesLog {correction : Nat} (positive : correction ≠ 0) :
    ∃ digit, (Nat.digits 10 correction).getLast? = some digit ∧
      decimalPlaces correction = Nat.log 10 correction + if 2 ≤ digit then 1 else 0 := by
  refine ⟨_, leadingDigit positive, ?_⟩
  have between := decimalPlacesBetween (Nat.pow_log_le_self 10 positive)
    (Nat.lt_pow_succ_log_self (by decide) correction)
  have twice : 2 ≤ correction / 10 ^ Nat.log 10 correction ↔
      2 * 10 ^ Nat.log 10 correction ≤ correction :=
    Nat.le_div_iff_mul_le (Nat.pow_pos (by decide))
  simpa only [twice] using between

/-- Nineteen places are enough for every correction of 64 bits. -/
theorem decimalPlacesFew (correction : UInt64) : decimalPlaces correction.toNat ≤ 19 := by
  have bound := correction.toNat_lt
  exact decimalPlacesLe.mpr (by omega)

/-- The counter starts at zero and has room for all places. -/
theorem countPlacesWhole (correction : UInt64) :
    countPlaces correction 0 = some (Int32.ofNat (decimalPlaces correction.toNat)) := by
  have few := decimalPlacesFew correction
  have counted := countPlacesFrom correction 0 (by omega)
  rwa [Nat.zero_add] at counted

/-- The settings of the market show what the counter comes to for the correction that was read. -/
theorem DefiSettings.Holds.counted {settings : DefiSettings} {addresses : DefiAddresses}
    {minter : Address} {mintFee minimumCollateralRatio rewardCollateralRatio : Word}
    {correction : UInt64}
    (holds : settings.Holds addresses minter mintFee minimumCollateralRatio rewardCollateralRatio
      (BitVec.ofNat 256 correction.toNat)) :
    countPlaces correction 0 = some settings.decimals := by
  obtain ⟨places, shown, least⟩ := holds.decimals
  have whole : (BitVec.ofNat 256 correction.toNat).toNat = correction.toNat := by
    have bound := correction.toNat_lt
    rw [BitVec.toNat_ofNat]
    omega
  rw [whole] at least
  obtain rfl := least.unique (decimalPlacesLeast correction.toNat)
  rw [countPlacesWhole, Int32.toInt_inj.mp ((decimalPlacesNumber correction).trans shown.symm)]

/-- This is what the number of decimal places tells about the size of a correction. -/
structure Measures (correction : UInt64) (places : Nat) : Prop where
  /-- The counter never passes its largest value, and in the end it shows the places. -/
  counted : countPlaces correction 0 = some (Int32.ofNat places)
  shown : (Int32.ofNat places).toInt = places
  least : IsLeast {places : Nat | correction.toNat < 2 * 10 ^ places} places
  few : places ≤ 19
  none : places = 0 ↔ correction ≤ 1
  /-- The leading digit comes last, because digits are listed from the last one on. -/
  logarithm : 1 ≤ correction →
    ∃ digit, (Nat.digits 10 correction.toNat).getLast? = some digit ∧
      places = Nat.log 10 correction.toNat + if 2 ≤ digit then 1 else 0

/-- The places of a correction are the least ones whose power of ten it does not reach twice. They
grow with the correction, and the powers of ten stand for their exponents. -/
theorem correctionsAreMeasured :
    (∀ correction : UInt64, Measures correction (decimalPlaces correction.toNat)) ∧
      (∀ smaller larger : UInt64, smaller ≤ larger →
        decimalPlaces smaller.toNat ≤ decimalPlaces larger.toNat) ∧
      ∀ power, 10 ^ power < 2 ^ 64 → decimalPlaces (UInt64.ofNat (10 ^ power)).toNat = power := by
  refine ⟨fun correction => ?_, ?_, ?_⟩
  · exact {
      counted := countPlacesWhole correction
      shown := decimalPlacesNumber correction
      least := ⟨decimalPlacesLe.mp le_rfl, fun _ fits => decimalPlacesLe.mpr fits⟩
      few := decimalPlacesFew correction
      none := decimalPlacesZero
      logarithm := fun positive => decimalPlacesLog (Nat.one_le_iff_ne_zero.mp positive) }
  · exact fun smaller larger ordered => decimalPlacesMonotone ordered
  · intro power small
    rw [UInt64.toNat_ofNat_of_lt' small, decimalPlacesPower]

example : countPlaces 19 0 = some 1 ∧ countPlaces 20 0 = some 2 := by decide +kernel

end NodeBridge.Staking
