import Mathlib
import Metrology.Proofs.Binary64.Stored

namespace Metrology.Binary64

open Float.Model (Format UnpackedFloat)
open Float.Model.UnpackedFloat

def sign : Bool → Sign
  | true => .negative
  | false => .positive

theorem sign_mul (n m : Bool) : sign n * sign m = sign (n != m) := by
  cases n <;> cases m <;> rfl

theorem sign_div (n m : Bool) : sign n / sign m = sign (n != m) := by
  cases n <;> cases m <;> rfl

/-- A size with a sign. Zero has a form of its own, whatever the exponent. -/
def unpackedSize (s : Sign) (size : Size) : UnpackedFloat :=
  if zero : size.mantissa = 0 then .zero s
  else .finite s size.mantissa size.exponent (Nat.pos_of_ne_zero zero)

theorem unpackedSize_of_eq_zero {size : Size} (zero : size.mantissa = 0) (s : Sign) :
    unpackedSize s size = .zero s :=
  dif_pos zero

theorem unpackedSize_of_ne_zero {size : Size} (nonzero : size.mantissa ≠ 0) (s : Sign) :
    unpackedSize s size = .finite s size.mantissa size.exponent (Nat.pos_of_ne_zero nonzero) :=
  dif_neg nonzero

theorem unpackedSize_cases (s : Sign) (size : Size) :
    unpackedSize s size = .zero s ∨ ∃ m e positive, unpackedSize s size = .finite s m e positive := by
  by_cases zero : size.mantissa = 0
  · exact .inl (unpackedSize_of_eq_zero zero s)
  · exact .inr ⟨_, _, _, unpackedSize_of_ne_zero zero s⟩

def unpacked : Binary64 → UnpackedFloat
  | .nan => .notANumber
  | .infinite negative => .infinity (sign negative)
  | .finite negative size => unpackedSize (sign negative) size

theorem toNat_unpackMantissa (b : BitVec Format.binary64.numBits) :
    (unpackMantissa b).toNat = b.toNat % leadingBit := by
  simp [unpackMantissa, BitVec.extractLsb_toNat, leadingBit]

theorem toNat_unpackSign (b : BitVec Format.binary64.numBits) :
    (unpackSign b).toNat = b.toNat / signBit := by
  have below : b.toNat < 2 ^ 64 := b.isLt
  simp [unpackSign, BitVec.extractLsb_toNat, Nat.shiftRight_eq_div_pow, signBit]
  omega

theorem ofBitVec_unpackSign (b : BitVec Format.binary64.numBits) :
    Sign.ofBitVec (unpackSign b) = sign (decide (signBit ≤ b.toNat)) := by
  have below : b.toNat < 2 ^ 64 := b.isLt
  have bit := toNat_unpackSign b
  by_cases negative : signBit ≤ b.toNat
  · have set : unpackSign b ≠ 0#1 := by
      intro clear
      rw [clear] at bit
      simp only [signBit, BitVec.toNat_zero] at bit negative
      omega
    rw [Sign.ofBitVec, if_neg set, decide_eq_true negative]
    rfl
  · have clear : unpackSign b = 0#1 := by
      apply BitVec.eq_of_toNat_eq
      rw [bit, Nat.div_eq_of_lt (Nat.not_le.mp negative)]
      rfl
    rw [Sign.ofBitVec, if_pos clear, decide_eq_false negative]
    rfl

theorem unpackExponent_eq_iff (b : BitVec Format.binary64.numBits) (e : BitVec Format.binary64.exponentBits) :
    unpackExponent b = e ↔ b.toNat % signBit / leadingBit = e.toNat := by
  have shown := toNat_unpackExponent b
  simp only [signBit, leadingBit]
  constructor
  · intro same
    rw [same] at shown
    omega
  · intro same
    apply BitVec.eq_of_toNat_eq
    omega

theorem unpackMantissa_eq_zero_iff (b : BitVec Format.binary64.numBits) :
    unpackMantissa b = 0#_ ↔ b.toNat % leadingBit = 0 := by
  rw [← toNat_unpackMantissa]
  exact BitVec.toNat_inj.symm

theorem toNat_leading_append (b : BitVec Format.binary64.numBits) :
    (1#1 ++ unpackMantissa b).toNat = leadingBit + b.toNat % leadingBit := by
  have below : (unpackMantissa b).toNat < 2 ^ 52 := (unpackMantissa b).isLt
  rw [← toNat_unpackMantissa, BitVec.toNat_append]
  exact (Nat.two_pow_add_eq_or_of_lt below 1).symm

theorem unpack_of_full {b : BitVec Format.binary64.numBits} {rest : Nat} (whole : b.toNat % signBit = rest)
    (full : rest / leadingBit = 2047) :
    unpack .binary64 b =
      if rest = infinityBits then .infinity (sign (decide (signBit ≤ b.toNat))) else .notANumber := by
  have exponent : unpackExponent b = -1#_ := (unpackExponent_eq_iff b _).mpr (by rw [whole, full]; rfl)
  have mantissa : unpackMantissa b = 0#_ ↔ rest = infinityBits := by
    rw [unpackMantissa_eq_zero_iff, ← whole]
    simp only [infinityBits, leadingBit, signBit] at full whole ⊢
    omega
  rw [unpack, if_pos exponent, ofBitVec_unpackSign]
  simp only [mantissa]

theorem unpack_of_least {b : BitVec Format.binary64.numBits} {rest : Nat} (whole : b.toNat % signBit = rest)
    (least : rest / leadingBit = 0) :
    unpack .binary64 b = unpackedSize (sign (decide (signBit ≤ b.toNat))) ⟨rest, leastExponent⟩ := by
  have exponent : unpackExponent b = 0#_ := (unpackExponent_eq_iff b _).mpr (by rw [whole, least]; rfl)
  have partly : unpackExponent b ≠ -1#_ := by rw [exponent]; decide
  have mantissa : (unpackMantissa b).toNat = rest := by
    rw [toNat_unpackMantissa, ← whole]
    simp only [leadingBit, signBit] at least whole ⊢
    omega
  have zero : unpackMantissa b = 0#_ ↔ rest = 0 := by
    rw [unpackMantissa_eq_zero_iff, ← toNat_unpackMantissa, mantissa]
  rw [unpack, if_neg partly, if_pos exponent, ofBitVec_unpackSign, unpackedSize]
  simp only [zero, mantissa, exponent]
  rfl

theorem unpack_of_leading {b : BitVec Format.binary64.numBits} {rest : Nat} (whole : b.toNat % signBit = rest)
    (number : rest < infinityBits) (leading : rest / leadingBit ≠ 0) :
    unpack .binary64 b = unpackedSize (sign (decide (signBit ≤ b.toNat)))
      ⟨leadingBit + rest % leadingBit, (rest / leadingBit : Nat) - 1 + leastExponent⟩ := by
  have field : (unpackExponent b).toNat = rest / leadingBit :=
    ((unpackExponent_eq_iff b _).mp rfl).symm.trans (by rw [whole])
  have partly : unpackExponent b ≠ -1#_ := by
    intro full
    have top : rest / leadingBit = 2047 := field.symm.trans (congrArg BitVec.toNat full)
    simp only [infinityBits, leadingBit] at number top
    omega
  have above : unpackExponent b ≠ 0#_ := fun least => leading (field.symm.trans (congrArg BitVec.toNat least))
  have mantissa : (1#1 ++ unpackMantissa b).toNat = leadingBit + rest % leadingBit := by
    rw [toNat_leading_append, ← whole]
    simp only [leadingBit, signBit]
    omega
  have exponent : ((unpackExponent b).toNat : Int) -
      (Format.binary64.exponentBias + Format.binary64.mantissaBitsWithoutImplicit) =
        (rest / leadingBit : Nat) - 1 + leastExponent := by
    rw [field]
    simp only [Format.exponentBias, leastExponent]
    omega
  have positive : leadingBit + rest % leadingBit ≠ 0 := by
    simp only [leadingBit]
    omega
  rw [unpack, if_neg partly, if_neg above, ofBitVec_unpackSign, unpackedSize, dif_neg positive]
  simp only [mantissa, exponent]

/-- Only the kind that the bits are of matters, and in a finite double which size they are. -/
theorem unpack_eq_unpacked (x : Float) : x.toModel.unpack = (ofFloat x).unpacked := by
  change unpack .binary64 x.toBits.toBitVec = (ofBits x.toBits).unpacked
  have whole : x.toBits.toBitVec.toNat % signBit = x.toBits.toNat % signBit := rfl
  have below : x.toBits.toNat % signBit < signBit := Nat.mod_lt _ (by decide)
  rw [ofBits]
  generalize x.toBits.toNat % signBit = rest at *
  by_cases number : rest < infinityBits
  · rw [if_pos number, Size.ofBits]
    split_ifs with least
    · exact unpack_of_least whole least
    · exact unpack_of_leading whole number least
  · have full : rest / leadingBit = 2047 := by
      simp only [infinityBits, leadingBit, signBit] at *
      omega
    rw [if_neg number, unpack_of_full whole full]
    split_ifs <;> rfl

theorem unpack_of_finite {x : Float} {n : Bool} {s : Size} (found : ofFloat x = .finite n s) :
    x.toModel.unpack = unpackedSize (sign n) s := by
  rw [unpack_eq_unpacked, found]
  rfl

theorem unpack_of_infinite {x : Float} {n : Bool} (found : ofFloat x = .infinite n) :
    x.toModel.unpack = .infinity (sign n) := by
  rw [unpack_eq_unpacked, found]
  rfl

def ofUnpacked (u : UnpackedFloat) : Binary64 := ofFloat (Float.ofModel (Float.Model.pack u))

theorem ofModel_pack_unpack (x : Float) : Float.ofModel (Float.Model.pack x.toModel.unpack) = x := by
  have stored : pack .binary64 x.toModel.unpack = x.toModel.toBits.toBitVec :=
    pack_unpack_of_valid x.toModel.valid
  exact Float.toBits_inj.mp (congrArg UInt64.ofBitVec stored)

theorem ofUnpacked_unpack (x : Float) : ofUnpacked x.toModel.unpack = ofFloat x :=
  congrArg ofFloat (ofModel_pack_unpack x)

theorem ofUnpacked_unpackedSize {s : Size} (canonical : s.Canonical) (negative : Bool) :
    ofUnpacked (unpackedSize (sign negative) s) = .finite negative s := by
  have stored := ofFloat_toFloat_finite canonical negative
  have read := unpack_eq_unpacked (Binary64.finite negative s).toFloat
  rw [stored, unpacked] at read
  rw [← read, ofUnpacked_unpack, stored]

theorem ofUnpacked_infinity (negative : Bool) :
    ofUnpacked (.infinity (sign negative)) = .infinite negative := by
  cases negative <;> rfl

/-- Above the greatest exponent nothing but infinity is left. -/
theorem ofUnpacked_of_beyond {s : Size} (leading : s.mantissa ≠ 0) (beyond : greatestExponent < s.exponent)
    (negative : Bool) : ofUnpacked (unpackedSize (sign negative) s) = .infinite negative := by
  have above : 2 ^ Format.binary64.exponentBits ≤
      (s.exponent + Format.binary64.exponentBias + Format.binary64.mantissaBitsWithoutImplicit).toNat + 1 := by
    simp only [Format.exponentBias, greatestExponent] at *
    omega
  have packed : Float.Model.pack (unpackedSize (sign negative) s) =
      Float.Model.pack (.infinity (sign negative)) := by
    simp only [Float.Model.pack, unpackedSize, dif_neg leading, pack, if_pos above]
  rw [ofUnpacked, packed, ← ofUnpacked, ofUnpacked_infinity]

end Metrology.Binary64
