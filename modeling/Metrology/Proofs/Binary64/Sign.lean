import Mathlib
import Metrology.Proofs.Binary64.Extremes

namespace Metrology.Binary64

open Float.Model (Format UnpackedFloat)
open Float.Model.UnpackedFloat

variable {x y : Float} {n : Bool} {s : Size}

def opposite : Binary64 → Binary64
  | .nan => .nan
  | .infinite negative => .infinite (!negative)
  | .finite negative size => .finite (!negative) size

theorem neg_sign (n : Bool) : -sign n = sign (!n) := by
  cases n <;> rfl

theorem neg_eq_ofModel (x : Float) : -x = Float.ofModel (Float.Model.pack x.toModel.unpack.neg) := by
  rw [← neg_ofModel_pack, ofModel_pack_unpack]

theorem unpack_neg (x : Float) : (-x).toModel.unpack = x.toModel.unpack.neg := by
  have stored : pack .binary64 x.toModel.unpack = x.toModel.toBits.toBitVec :=
    pack_unpack_of_valid x.toModel.valid
  have read := unpack_pack_neg x.toModel.unpack
  rw [stored] at read
  rw [neg_eq_ofModel]
  exact read

theorem ofFloat_neg (x : Float) : ofFloat (-x) = (ofFloat x).opposite := by
  have result : ofFloat (-x) = ofUnpacked x.toModel.unpack.neg := congrArg ofFloat (neg_eq_ofModel x)
  rw [result, unpack_eq_unpacked]
  cases found : ofFloat x with
  | nan => rfl
  | infinite n =>
    rw [unpacked, neg, neg_sign, ofUnpacked_infinity, opposite]
  | finite n s =>
    have turned : (unpackedSize (sign n) s).neg = unpackedSize (sign (!n)) s := by
      rw [← neg_sign, unpackedSize, unpackedSize]
      split <;> rfl
    rw [unpacked, turned, ofUnpacked_unpackedSize (ofFloat_eq_finite found).1, opposite]

theorem sub_eq_add_neg_unpacked (u v : UnpackedFloat) : sub .binary64 u v = add .binary64 u v.neg := by
  cases u with
  | notANumber => cases v <;> rfl
  | infinity s => cases v <;> rfl
  | zero s => cases v <;> rfl
  | finite s m e =>
    cases v with
    | finite t k f =>
      have opposite (a : Nat) : (-t).apply a = -t.apply a := by
        cases t
        · exact (neg_neg _).symm
        · rfl
      simp only [sub, add, neg, opposite, sub_eq_add_neg]
    | _ => rfl

theorem sub_eq_add_neg_float (x y : Float) : x - y = x + -y := by
  change Float.ofModel (Float.Model.pack (sub .binary64 x.toModel.unpack y.toModel.unpack)) =
    Float.ofModel (Float.Model.pack (add .binary64 x.toModel.unpack (-y).toModel.unpack))
  rw [unpack_neg, sub_eq_add_neg_unpacked]

theorem lt_zero_of_finite (found : ofFloat x = .finite true s) (nonzero : s.mantissa ≠ 0) : x < 0.0 := by
  rw [lt_iff_compare, unpack_of_finite found, unpackedSize_of_ne_zero nonzero]
  rfl

theorem zero_lt_of_finite (found : ofFloat x = .finite false s) (nonzero : s.mantissa ≠ 0) : 0.0 < x := by
  rw [lt_iff_compare, unpack_of_finite found, unpackedSize_of_ne_zero nonzero]
  rfl

theorem lt_zero_of_infinite (found : ofFloat x = .infinite true) : x < 0.0 := by
  rw [lt_iff_compare, unpack_of_infinite found]
  rfl

theorem zero_lt_of_infinite (found : ofFloat x = .infinite false) : 0.0 < x := by
  rw [lt_iff_compare, unpack_of_infinite found]
  rfl

end Metrology.Binary64
