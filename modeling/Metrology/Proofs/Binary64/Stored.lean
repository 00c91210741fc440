import Mathlib
import Metrology.Proofs.Binary64.Nearest

namespace Metrology.Binary64

open Float.Model
open Float.Model.UnpackedFloat (isNaNBits unpackExponent)

theorem toNat_unpackExponent (b : BitVec Format.binary64.numBits) :
    (unpackExponent b).toNat = b.toNat / 2 ^ 52 % 2 ^ 11 := by
  simp [unpackExponent, BitVec.extractLsb_toNat, Nat.shiftRight_eq_div_pow]

theorem toBits_ofBits_of_finite {bits : UInt64} (finite : bits.toNat % signBit < infinityBits) :
    (Float.ofBits bits).toBits = bits := by
  have exponent : @unpackExponent .binary64 bits.toBitVec ≠ -1#_ := by
    intro full
    have greatest : bits.toNat / 2 ^ 52 % 2 ^ 11 = 2047 :=
      (toNat_unpackExponent bits.toBitVec).symm.trans (congrArg BitVec.toNat full)
    simp only [signBit, infinityBits, leadingBit] at finite
    omega
  have number : @isNaNBits .binary64 bits.toBitVec = false :=
    decide_eq_false fun full => exponent full.1
  change UInt64.ofBitVec (UnpackedFloat.pack .binary64 (UnpackedFloat.unpack .binary64 bits.toBitVec)) = bits
  rw [UnpackedFloat.pack_unpack, number]
  rfl

namespace Size

theorem ofBits_bits {s : Size} (canonical : s.Canonical) : Size.ofBits s.bits = s := by
  obtain ⟨full, least, -, leading⟩ := canonical
  obtain ⟨mantissa, exponent⟩ := s
  simp only at full least leading
  have quotient : bits ⟨mantissa, exponent⟩ / leadingBit =
      (exponent - leastExponent).toNat + mantissa / leadingBit := by
    simp only [bits, leadingBit]
    omega
  have rest : bits ⟨mantissa, exponent⟩ % leadingBit = mantissa % leadingBit := by
    simp only [bits, leadingBit]
    omega
  rw [ofBits, quotient, rest]
  simp only [bits]
  rcases Nat.lt_or_ge mantissa leadingBit with small | large
  · have same : exponent = leastExponent := leading.resolve_left (Nat.not_le.mpr small)
    rw [if_pos (by rw [same, Nat.div_eq_of_lt small]; simp), same]
    simp
  · have one : mantissa / leadingBit = 1 := by
      simp only [leadingBit] at *
      omega
    rw [if_neg (by omega), one]
    simp only [leadingBit, leastExponent, mk.injEq] at *
    omega

theorem bits_lt {s : Size} (canonical : s.Canonical) : s.bits < infinityBits := by
  obtain ⟨full, least, greatest, leading⟩ := canonical
  simp only [bits, infinityBits, leadingBit, leastExponent, greatestExponent] at *
  omega

end Size

theorem ofFloat_eq_finite {x : Float} {negative : Bool} {size : Size}
    (found : ofFloat x = .finite negative size) :
    size.Canonical ∧ size.bits = x.toBits.toNat % signBit ∧ x.toBits.toNat % signBit < infinityBits := by
  unfold ofFloat ofBits at found
  dsimp only at found
  split at found
  · next inside =>
    cases found
    exact ⟨Size.ofBits_canonical inside, Size.bits_ofBits _, inside⟩
  · split at found <;> cases found

theorem ofFloat_toFloat_finite {s : Size} (canonical : s.Canonical) (negative : Bool) :
    ofFloat (Binary64.finite negative s).toFloat = .finite negative s := by
  have inside := Size.bits_lt canonical
  set bits : UInt64 := (Binary64.finite negative s).toBits with written
  have number : bits.toNat = (if negative then signBit else 0) + s.bits := by
    rw [written, toBits, UInt64.toNat_ofNat']
    apply Nat.mod_eq_of_lt
    simp only [signBit, infinityBits, leadingBit] at *
    split <;> omega
  have rest : bits.toNat % signBit = s.bits := by
    rw [number]
    simp only [signBit, infinityBits, leadingBit] at *
    split <;> omega
  have sign : decide (signBit ≤ bits.toNat) = negative := by
    rw [number]
    simp only [signBit, infinityBits, leadingBit] at *
    cases negative <;> simp
    omega
  rw [ofFloat, toFloat, ← written, toBits_ofBits_of_finite (by rw [rest]; exact inside), ofBits]
  simp only [rest, sign, if_pos inside, Size.ofBits_bits canonical]

end Metrology.Binary64
