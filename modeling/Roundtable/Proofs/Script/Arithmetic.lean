import Mathlib.Data.Rat.Floor
import Roundtable.Script.Builtin.Call
/-!
Integer arithmetic is exact: an operation makes the integer that it means if 64 bits hold it, and is at
fault otherwise. Sums, differences and products are checked as they are made. Division corrects the
quotient and the remainder of words, and for that no step may leave the 64 bits on the way; powers
stop at the first square that is too large, and for that no later factor may bring it back.
-/

namespace Roundtable.Script

/-- The integers that 64 bits hold. -/
def Fits (z : Int) : Prop :=
  -2 ^ 63 ≤ z ∧ z < 2 ^ 63

/-- An outcome is the integer `z`, given as `make` gives words, or an overflow if no word is `z`. -/
def IsExactly {α : Type} (make : Int64 → α) (outcome : Except RuntimeFault α) (z : Int) : Prop :=
  (∃ word : Int64, word.toInt = z ∧ outcome = .ok (make word)) ∨
    ¬Fits z ∧ outcome = .error .overflow

/-- The values that count as integers: the truth values are zero and one. -/
inductive Value.CountsAs : Value → Int64 → Prop where
  | int (word : Int64) : CountsAs (.int word) word
  | bool (truth : Bool) : CountsAs (.bool truth) (if truth then 1 else 0)

section Exactly

variable {α β : Type} {make : Int64 → α} {outcome : Except RuntimeFault α} {z : Int}

theorem IsExactly.map (h : IsExactly make outcome z) (f : α → β) :
    IsExactly (fun word => f (make word)) (f <$> outcome) z := by
  rcases h with ⟨word, hword, rfl⟩ | ⟨hwide, rfl⟩
  · exact .inl ⟨word, hword, rfl⟩
  · exact .inr ⟨hwide, rfl⟩

theorem checked_isExactly (z : Int) : IsExactly id (checked z) z := by
  unfold checked
  cases hword : Number.toInt64? z with
  | some word => exact .inl ⟨word, Number.toInt_of_toInt64? hword, rfl⟩
  | none =>
      have hwide := Number.toInt64?_eq_none hword
      refine .inr ⟨fun hfits => ?_, rfl⟩
      unfold Fits at hfits
      omega

/-- What goes on from a checked integer is exact if it is so from every word of that integer, and if
it means nothing that 64 bits hold when they do not hold that integer. -/
theorem checked_bind_isExactly {z total : Int} {next : Int64 → Except RuntimeFault α}
    (hnext : ∀ word : Int64, word.toInt = z → IsExactly make (next word) total)
    (hwide : ¬Fits z → ¬Fits total) : IsExactly make (checked z >>= next) total := by
  rcases checked_isExactly z with ⟨word, hword, hok⟩ | ⟨hz, hfault⟩
  · rw [hok]
    exact hnext word hword
  · rw [hfault]
    exact .inr ⟨hwide hz, rfl⟩

end Exactly

/-! ### Division -/

/-- Quotient and remainder of a division that rounds down: the remainder is nearer to zero than the
divisor, on the same side. -/
structure DividesDown (x y quotient remainder : Int) : Prop where
  recompose : x = quotient * y + remainder
  side : 0 ≤ remainder ∧ remainder < y ∨ y < remainder ∧ remainder ≤ 0

theorem DividesDown.floor_eq {x y quotient remainder : Int}
    (h : DividesDown x y quotient remainder) : ⌊(x : ℚ) / y⌋ = quotient := by
  have hx : (x : ℚ) = quotient * y + remainder := by exact_mod_cast h.recompose
  rw [Int.floor_eq_iff]
  rcases h.side with ⟨hlow, hhigh⟩ | ⟨hlow, hhigh⟩
  · have hy : (0 : ℚ) < y := by exact_mod_cast hlow.trans_lt hhigh
    have hlow : (0 : ℚ) ≤ remainder := by exact_mod_cast hlow
    have hhigh : (remainder : ℚ) < y := by exact_mod_cast hhigh
    rw [le_div_iff₀ hy, div_lt_iff₀ hy]
    constructor <;> linarith
  · have hy : (y : ℚ) < 0 := by exact_mod_cast hlow.trans_le hhigh
    have hlow : (y : ℚ) < remainder := by exact_mod_cast hlow
    have hhigh : (remainder : ℚ) ≤ 0 := by exact_mod_cast hhigh
    rw [le_div_iff_of_neg hy, div_lt_iff_of_neg hy]
    constructor <;> linarith

theorem DividesDown.sign_eq {x y quotient remainder : Int}
    (h : DividesDown x y quotient remainder) : remainder = 0 ∨ remainder.sign = y.sign := by
  rcases Int.lt_trichotomy remainder 0 with hneg | hzero | hpos
  · have hy : y < 0 := by
      have := h.side
      omega
    exact .inr (by rw [Int.sign_eq_neg_one_of_neg hneg, Int.sign_eq_neg_one_of_neg hy])
  · exact .inl hzero
  · have hy : 0 < y := by
      have := h.side
      omega
    exact .inr (by rw [Int.sign_eq_one_of_pos hpos, Int.sign_eq_one_of_pos hy])

theorem DividesDown.abs_lt {x y quotient remainder : Int}
    (h : DividesDown x y quotient remainder) : |remainder| < |y| := by
  rw [← Int.natCast_natAbs, ← Int.natCast_natAbs]
  have := h.side
  omega

section Words

variable {x y : Int64}

theorem toInt_add_of_fits (h : Fits (x.toInt + y.toInt)) : (x + y).toInt = x.toInt + y.toInt := by
  unfold Fits at h
  rw [Int64.toInt_add, Int.bmod_eq_of_le] <;> omega

theorem toInt_sub_of_fits (h : Fits (x.toInt - y.toInt)) : (x - y).toInt = x.toInt - y.toInt := by
  unfold Fits at h
  rw [Int64.toInt_sub, Int.bmod_eq_of_le] <;> omega

/-- Two words are on different sides of zero, one of them below it. -/
theorem sides_iff : decide (x < 0) ≠ decide (y < 0) ↔ ¬(x.toInt < 0 ↔ y.toInt < 0) := by
  rw [ne_eq, decide_eq_decide, Int64.lt_iff_toInt_lt, Int64.lt_iff_toInt_lt, Int64.toInt_zero]

theorem toInt_div_of_not_least (h : ¬(x = Int64.minValue ∧ y = -1)) :
    (x / y).toInt = x.toInt.tdiv y.toInt := by
  by_cases hx : x = Int64.minValue
  · exact Int64.toInt_div_of_ne_right x y fun hminus => h ⟨hx, hminus⟩
  · exact Int64.toInt_div_of_ne_left x y hx

theorem mod_ne_zero_iff : x % y ≠ 0 ↔ x.toInt.tmod y.toInt ≠ 0 := by
  rw [← Int64.toInt_mod, ne_eq, ne_eq, ← Int64.toInt_inj, Int64.toInt_zero]

/-- A remainder toward zero is nearer to zero than the divisor, on the side of the dividend. -/
theorem tmod_bounds (x : Int) {y : Int} (hy : y ≠ 0) :
    (x.tmod y).natAbs < y.natAbs ∧ (0 < x.tmod y → 0 < x) ∧ (x.tmod y < 0 → x < 0) := by
  refine ⟨?_, fun hpos => ?_, fun hneg => ?_⟩
  · rw [Int.natAbs_tmod]
    exact Nat.mod_lt _ (Int.natAbs_pos.2 hy)
  · by_contra hx
    have := Int.tmod_nonneg y (show 0 ≤ -x by omega)
    rw [Int.neg_tmod] at this
    omega
  · by_contra hx
    have := Int.tmod_nonneg y (show 0 ≤ x by omega)
    omega

/-- The operations on words that a division makes have the results that they have on integers: none
wraps around. -/
structure DivisionUnwrapped (x y : Int64) : Prop where
  quotient : ¬(x = Int64.minValue ∧ y = -1) → (x / y).toInt = x.toInt.tdiv y.toInt
  remainder : (x % y).toInt = x.toInt.tmod y.toInt
  lowered : x % y ≠ 0 → (x / y - 1).toInt = (x / y).toInt - 1
  raised : decide (x % y < 0) ≠ decide (y < 0) → (x % y + y).toInt = (x % y).toInt + y.toInt

theorem division_unwrapped (hy : y ≠ 0) : DivisionUnwrapped x y := by
  have hzero : y.toInt ≠ 0 := fun h => hy (Int64.toInt_inj.1 h)
  have hremainder : (x % y).toInt = x.toInt.tmod y.toInt := Int64.toInt_mod x y
  obtain ⟨hnear, -, -⟩ := tmod_bounds x.toInt hzero
  have hx := And.intro x.le_toInt x.toInt_lt
  have hword := And.intro y.le_toInt y.toInt_lt
  refine ⟨toInt_div_of_not_least, hremainder, fun hrest => ?_, fun hsides => ?_⟩
  · -- a division with a remainder has a divisor of at least two, which halves the dividend
    rw [mod_ne_zero_iff] at hrest
    have hminus : ¬(x = Int64.minValue ∧ y = -1) := by
      rintro ⟨-, rfl⟩
      change _ < (-1 : Int).natAbs at hnear
      omega
    have hhalf : (x.toInt.tdiv y.toInt).natAbs ≤ x.toInt.natAbs / 2 := by
      rw [Int.natAbs_tdiv]
      exact Nat.div_le_div_left (by omega) (by decide)
    apply toInt_sub_of_fits
    rw [toInt_div_of_not_least hminus, Int64.toInt_one]
    unfold Fits
    omega
  · apply toInt_add_of_fits
    rw [sides_iff] at hsides
    unfold Fits
    omega

/-- A remainder is on the side of its dividend, so quotient and remainder are corrected in the same
cases. -/
theorem mod_sides_iff (hy : y.toInt ≠ 0) (hrest : x % y ≠ 0) :
    decide (x % y < 0) ≠ decide (y < 0) ↔ decide (x < 0) ≠ decide (y < 0) := by
  obtain ⟨-, hpos, hneg⟩ := tmod_bounds x.toInt hy
  rw [mod_ne_zero_iff] at hrest
  rw [sides_iff, sides_iff, Int64.toInt_mod]
  omega

/-- Between two sides of zero the quotient toward zero is one too high, unless the division is exact. -/
theorem floorDivision_of_sides (hy : y ≠ 0) (hrest : x % y ≠ 0)
    (hsides : decide (x < 0) ≠ decide (y < 0)) :
    DividesDown x.toInt y.toInt (x.toInt.tdiv y.toInt - 1) (floorModulus x y).toInt ∧
      IsExactly id (floorQuotient x y) (x.toInt.tdiv y.toInt - 1) := by
  have hzero : y.toInt ≠ 0 := fun h => hy (Int64.toInt_inj.1 h)
  obtain ⟨hquotient, hremainder, hlowered, hraised⟩ := division_unwrapped (x := x) hy
  obtain ⟨hnear, -, -⟩ := tmod_bounds x.toInt hzero
  have hdivision := Int.mul_tdiv_add_tmod x.toInt y.toInt
  have hdifferent := (mod_sides_iff hzero hrest).2 hsides
  have hmodulus : (floorModulus x y).toInt = x.toInt.tmod y.toInt + y.toInt := by
    rw [floorModulus, if_pos ⟨hrest, hdifferent⟩, hraised hdifferent, hremainder]
  have hminus : ¬(x = Int64.minValue ∧ y = -1) := by
    rintro ⟨rfl, rfl⟩
    exact hrest rfl
  refine ⟨⟨?_, ?_⟩, .inl ⟨x / y - 1, ?_, ?_⟩⟩
  · rw [hmodulus]
    linarith
  · rw [sides_iff, hremainder] at hdifferent
    rw [mod_ne_zero_iff] at hrest
    omega
  · rw [hlowered hrest, hquotient hminus]
  · rw [floorQuotient, if_neg hminus]
    exact congrArg Except.ok (if_pos ⟨hrest, hsides⟩)

/-- In all other cases the quotient toward zero is the floor, and is too large for one division. -/
theorem floorDivision_of_not_sides (hy : y ≠ 0)
    (hsides : ¬(x % y ≠ 0 ∧ decide (x < 0) ≠ decide (y < 0))) :
    DividesDown x.toInt y.toInt (x.toInt.tdiv y.toInt) (floorModulus x y).toInt ∧
      IsExactly id (floorQuotient x y) (x.toInt.tdiv y.toInt) := by
  have hzero : y.toInt ≠ 0 := fun h => hy (Int64.toInt_inj.1 h)
  obtain ⟨hquotient, hremainder, -, -⟩ := division_unwrapped (x := x) hy
  obtain ⟨hnear, hpos, hneg⟩ := tmod_bounds x.toInt hzero
  have hdivision := Int.mul_tdiv_add_tmod x.toInt y.toInt
  have hmodulus : (floorModulus x y).toInt = x.toInt.tmod y.toInt := by
    rw [floorModulus, if_neg fun h => hsides ⟨h.1, (mod_sides_iff hzero h.1).1 h.2⟩, hremainder]
  refine ⟨⟨?_, ?_⟩, ?_⟩
  · rw [hmodulus]
    linarith
  · rw [sides_iff, mod_ne_zero_iff] at hsides
    omega
  · by_cases hminus : x = Int64.minValue ∧ y = -1
    · have hlarge : ¬Fits (Int64.minValue.toInt.tdiv (-1 : Int64).toInt) := by
        unfold Fits
        decide
      refine .inr ⟨?_, if_pos hminus⟩
      rwa [hminus.1, hminus.2]
    · refine .inl ⟨x / y, hquotient hminus, ?_⟩
      rw [floorQuotient, if_neg hminus]
      exact congrArg Except.ok (if_neg hsides)

/-- The corrected quotient and remainder are those of the division that rounds down. -/
theorem floorDivision (hy : y ≠ 0) : ∃ quotient : Int,
    DividesDown x.toInt y.toInt quotient (floorModulus x y).toInt ∧
      IsExactly id (floorQuotient x y) quotient := by
  by_cases hcorrected : x % y ≠ 0 ∧ decide (x < 0) ≠ decide (y < 0)
  · exact ⟨_, floorDivision_of_sides hy hcorrected.1 hcorrected.2⟩
  · exact ⟨_, floorDivision_of_not_sides hy hcorrected⟩

end Words

/-! ### Powers -/

section Powers

/-- A positive factor does not bring an integer back that is too large. -/
theorem not_fits_mul_of_pos {z factor : Int} (hz : ¬Fits z) (hfactor : 0 < factor) :
    ¬Fits (z * factor) := by
  unfold Fits at hz ⊢
  have hcases : z < -2 ^ 63 ∨ 2 ^ 63 ≤ z := by omega
  rcases hcases with hlow | hhigh
  · have : z * factor ≤ z * 1 := Int.mul_le_mul_of_nonpos_left (by omega) hfactor
    omega
  · have : z * 1 ≤ z * factor := Int.mul_le_mul_of_nonneg_left hfactor (by omega)
    omega

/-- A factor of either sign does not bring a square back that is too large, since `-2 ^ 63` is no
square with its sign changed. -/
theorem not_fits_mul_square {base factor : Int} (hsquare : ¬Fits (base * base))
    (hfactor : factor ≠ 0) : ¬Fits (factor * (base * base)) := by
  have hnonneg := mul_self_nonneg base
  have hlarge : 2 ^ 63 ≤ base * base := by
    unfold Fits at hsquare
    omega
  have hroot : 3037000500 ≤ |base| := by
    by_contra hsmall
    have hle : |base| ≤ 3037000499 := by omega
    have := mul_le_mul hle hle (abs_nonneg base) (by norm_num)
    rw [abs_mul_abs_self] at this
    omega
  have hmore : 2 ^ 63 < base * base := by
    have := mul_le_mul hroot hroot (by norm_num) (abs_nonneg base)
    rw [abs_mul_abs_self] at this
    omega
  unfold Fits
  rcases Int.lt_or_gt_of_ne hfactor with hneg | hpos
  · have : factor * (base * base) ≤ -1 * (base * base) :=
      Int.mul_le_mul_of_nonneg_right (by omega) hnonneg
    omega
  · have : 1 * (base * base) ≤ factor * (base * base) :=
      Int.mul_le_mul_of_nonneg_right hpos hnonneg
    omega

theorem pow_of_even (base : Int) {exponent : Nat} (heven : exponent % 2 = 0) :
    base ^ exponent = (base * base) ^ (exponent / 2) := by
  rw [← pow_two, ← pow_mul, Nat.mul_div_cancel' (Nat.dvd_of_mod_eq_zero heven)]

theorem pow_of_odd (base : Int) {exponent : Nat} (hodd : exponent % 2 ≠ 0) :
    base ^ exponent = base * (base * base) ^ (exponent / 2) := by
  rw [← pow_two, ← pow_mul, ← pow_succ']
  congr 1
  omega

/-- What is left of a power once the factor of an odd exponent is taken. -/
theorem powerRest_isExactly {product base : Int64} {exponent : Nat} (hnone : exponent ≠ 0)
    (hproduct : product.toInt ≠ 0) (hbase : base.toInt ≠ 0)
    (ih : ∀ square : Int64, square.toInt = base.toInt * base.toInt →
      IsExactly id (powerFrom product square (exponent / 2))
        (product.toInt * square.toInt ^ (exponent / 2))) :
    IsExactly id (if exponent = 1 then return product else do
        let square ← checked (base.toInt * base.toInt)
        powerFrom product square (exponent / 2))
      (product.toInt * (base.toInt * base.toInt) ^ (exponent / 2)) := by
  by_cases hone : exponent = 1
  · rw [if_pos hone, hone, Nat.div_eq_of_lt (by decide), pow_zero, mul_one]
    exact .inl ⟨product, rfl, rfl⟩
  rw [if_neg hone]
  apply checked_bind_isExactly
  · intro square hsquare
    rw [← hsquare]
    exact ih square hsquare
  · intro hwide
    obtain ⟨half, hhalf⟩ : ∃ half, exponent / 2 = half + 1 := ⟨exponent / 2 - 1, by omega⟩
    rw [hhalf, pow_succ, ← mul_assoc]
    exact not_fits_mul_square hwide
      (mul_ne_zero hproduct (pow_ne_zero half (mul_ne_zero hbase hbase)))

theorem powerFrom_isExactly {product base : Int64} (exponent : Nat) (hproduct : product.toInt ≠ 0)
    (hbase : base.toInt ≠ 0) :
    IsExactly id (powerFrom product base exponent) (product.toInt * base.toInt ^ exponent) := by
  -- the squares are other bases and the factors other products, so both are general
  induction exponent using Nat.strong_induction_on generalizing product base with
  | h exponent ih =>
      rw [powerFrom]
      by_cases hnone : exponent = 0
      · rw [if_pos hnone, hnone, pow_zero, mul_one]
        exact .inl ⟨product, rfl, rfl⟩
      rw [if_neg hnone]
      have hrest (product : Int64) (hproduct : product.toInt ≠ 0) :=
        powerRest_isExactly hnone hproduct hbase fun square hsquare =>
          ih (exponent / 2) (by omega) hproduct (by rw [hsquare]; exact mul_ne_zero hbase hbase)
      by_cases heven : exponent % 2 = 0
      · rw [if_pos heven, pow_of_even base.toInt heven]
        exact hrest product hproduct
      · rw [if_neg heven, pow_of_odd base.toInt heven, ← mul_assoc]
        apply checked_bind_isExactly
        · intro next hnext
          rw [← hnext]
          exact hrest next (by rw [hnext]; exact mul_ne_zero hproduct hbase)
        · intro hwide
          exact not_fits_mul_of_pos hwide (pow_pos (mul_self_pos.2 hbase) _)

/-- Powers of an integer beyond one and minus one are too large from the exponent 64 on. -/
theorem not_fits_pow {base : Int} {exponent : Nat} (hbase : 2 ≤ base.natAbs)
    (hexponent : 64 ≤ exponent) : ¬Fits (base ^ exponent) := by
  have hlarge : 2 ^ 64 ≤ (base ^ exponent).natAbs := by
    rw [Int.natAbs_pow]
    calc 2 ^ 64 ≤ 2 ^ exponent := Nat.pow_le_pow_right (by decide) hexponent
      _ ≤ base.natAbs ^ exponent := Nat.pow_le_pow_left hbase exponent
  unfold Fits
  omega

/-- Powers of minus one alternate. -/
theorem minusOne_isExactly {y : Int64} (hy : 0 ≤ y.toInt) :
    IsExactly id (.ok (if y % 2 = 0 then 1 else -1)) ((-1) ^ y.toInt.toNat) := by
  have hparity : (y % 2).toInt = y.toInt % 2 :=
    (Int64.toInt_mod y 2).trans (Int.tmod_eq_emod_of_nonneg hy)
  have heven : y % 2 = 0 ↔ y.toInt % 2 = 0 := by
    rw [← hparity, ← Int64.toInt_inj, Int64.toInt_zero]
  by_cases h : y % 2 = 0
  · have hnat : Even y.toInt.toNat := Nat.even_iff.2 (by have := heven.1 h; omega)
    rw [if_pos h, hnat.neg_one_pow]
    exact .inl ⟨1, rfl, rfl⟩
  · have hnat : Odd y.toInt.toNat := Nat.odd_iff.2 (by have := mt heven.2 h; omega)
    rw [if_neg h, hnat.neg_one_pow]
    exact .inl ⟨-1, rfl, rfl⟩

theorem intPower_isExactly {x y : Int64} (hy : 0 ≤ y.toInt) :
    IsExactly id (intPower x y) (x.toInt ^ y.toInt.toNat) := by
  unfold intPower
  by_cases hone : x = 1
  · rw [if_pos hone, hone]
    exact .inl ⟨1, (one_pow _).symm, rfl⟩
  rw [if_neg hone]
  by_cases hzero : x = 0 ∧ 0 < y
  · have hexponent : y.toInt.toNat ≠ 0 := by
      have := Int64.lt_iff_toInt_lt.1 hzero.2
      rw [Int64.toInt_zero] at this
      omega
    rw [if_pos hzero, hzero.1]
    exact .inl ⟨0, (zero_pow hexponent).symm, rfl⟩
  rw [if_neg hzero]
  by_cases hminus : x = -1
  · rw [if_pos hminus, hminus]
    exact minusOne_isExactly hy
  rw [if_neg hminus]
  have hone : x.toInt ≠ 1 := fun h => hone (Int64.toInt_inj.1 h)
  have hminus : x.toInt ≠ -1 := fun h => hminus (Int64.toInt_inj.1 h)
  have hzero : x.toInt = 0 → y.toInt ≤ 0 := fun h => not_lt.1 fun hpos =>
    hzero ⟨Int64.toInt_inj.1 h, Int64.lt_iff_toInt_lt.2 hpos⟩
  by_cases hlarge : 4294967296 ≤ y
  · rw [if_pos hlarge]
    have hlarge : 4294967296 ≤ y.toInt := Int64.le_iff_toInt_le.1 hlarge
    exact .inr ⟨not_fits_pow (by omega) (by omega), rfl⟩
  rw [if_neg hlarge]
  change IsExactly id (powerFrom 1 x y.toInt.toNat) _
  by_cases hbase : x.toInt = 0
  · have hexponent : y.toInt.toNat = 0 := by
      have := hzero hbase
      omega
    rw [hexponent, powerFrom]
    exact .inl ⟨1, (pow_zero _).symm, rfl⟩
  · have hpower := @powerFrom_isExactly 1 x y.toInt.toNat (by decide) hbase
    rwa [Int64.toInt_one, one_mul] at hpower

end Powers

/-! ### The operators -/

theorem Value.CountsAs.numeric?_eq {value : Value} {word : Int64} (h : value.CountsAs word) :
    value.numeric? = some (.int word) := by
  cases h <;> rfl

/-- What arithmetic makes of two values that count as the integers `x` and `y`. -/
structure IntegerLaws (room : Room) (heap : Heap) (left right : Value) (x y : Int64) : Prop where
  add : IsExactly (.value <| .int ·) (combine heap .add left right) (x.toInt + y.toInt)
  sub : IsExactly (.value <| .int ·) (combine heap .sub left right) (x.toInt - y.toInt)
  mul : IsExactly (.value <| .int ·) (combine heap .mul left right) (x.toInt * y.toInt)
  pow : 0 ≤ y.toInt →
    IsExactly (.value <| .int ·) (combine heap .pow left right) (x.toInt ^ y.toInt.toNat)
  neg : IsExactly .int (signed .neg left) (-x.toInt)
  abs : IsExactly (.value <| .int ·) (Builtin.result room heap .abs [left]) |x.toInt|
  /-- No division has a result for the divisor zero. -/
  byZero : y.toInt = 0 → ∀ op ∈ [BinaryOp.div, .floorDiv, .mod],
    combine heap op left right = .error .divisionByZero
  floorDiv : y.toInt ≠ 0 →
    IsExactly (.value <| .int ·) (combine heap .floorDiv left right) ⌊(x.toInt : ℚ) / y.toInt⌋
  floorDiv_overflow : y.toInt ≠ 0 → (combine heap .floorDiv left right = .error .overflow ↔
    x.toInt = -2 ^ 63 ∧ y.toInt = -1)
  /-- The remainder is always there, also where the quotient is too large. -/
  mod : y.toInt ≠ 0 → ∃ rest : Int64, combine heap .mod left right = .ok (.value (.int rest)) ∧
    x.toInt = ⌊(x.toInt : ℚ) / y.toInt⌋ * y.toInt + rest.toInt ∧
    (rest.toInt = 0 ∨ rest.toInt.sign = y.toInt.sign) ∧ |rest.toInt| < |y.toInt|
  /-- A power with a negative exponent divides by its base. -/
  inverse : x.toInt = 0 → y.toInt < 0 → combine heap .pow left right = .error .divisionByZero
  unwrapped : y.toInt ≠ 0 → DivisionUnwrapped x y

section Operators

variable {heap : Heap} {left right : Value} {x y : Int64}

theorem combine_of_countsAs (hleft : left.CountsAs x) (hright : right.CountsAs y) (op : BinaryOp) :
    combine heap op left right = (fun z => .value z.toValue) <$> intOperation op x y := by
  unfold combine
  rw [hleft.numeric?_eq, hright.numeric?_eq]
  rfl

theorem combine_isExactly (hleft : left.CountsAs x) (hright : right.CountsAs y) {op : BinaryOp}
    {outcome : Except RuntimeFault Int64} {z : Int} (hop : intOperation op x y = .int <$> outcome)
    (hz : IsExactly id outcome z) :
    IsExactly (.value <| .int ·) (combine heap op left right) z := by
  rw [combine_of_countsAs hleft hright, hop]
  exact (hz.map Numeric.int).map _

theorem result_abs_isExactly (room : Room) (hleft : left.CountsAs x) :
    IsExactly (.value <| .int ·) (Builtin.result room heap .abs [left]) |x.toInt| := by
  have hmagnitude : Builtin.result room heap .abs [left] =
      (.value <| .int ·) <$> checked x.toInt.natAbs := by
    unfold Builtin.result
    simp only [hleft.numeric?_eq]
  have hexact := checked_isExactly x.toInt.natAbs
  rw [hmagnitude, ← Int.natCast_natAbs]
  exact hexact.map fun word => Made.value (.int word)

theorem intOperation_zero {op : BinaryOp} (hop : op ∈ [BinaryOp.div, .floorDiv, .mod]) (x : Int64) :
    intOperation op x 0 = .error .divisionByZero := by
  simp only [List.mem_cons, List.not_mem_nil, or_false] at hop
  rcases hop with rfl | rfl | rfl <;> rfl

theorem floorQuotient_eq_overflow_iff :
    floorQuotient x y = .error .overflow ↔ x = Int64.minValue ∧ y = -1 := by
  unfold floorQuotient
  split
  · rename_i hminus
    exact iff_of_true rfl hminus
  · rename_i hminus
    exact iff_of_false nofun hminus

theorem intOperation_floorDiv_overflow_iff (hy : y ≠ 0) :
    intOperation .floorDiv x y = .error .overflow ↔ x = Int64.minValue ∧ y = -1 := by
  have hop : intOperation .floorDiv x y = .int <$> floorQuotient x y := if_neg hy
  rw [hop, ← floorQuotient_eq_overflow_iff]
  cases floorQuotient x y <;> simp

theorem integer_arithmetic_exact (room : Room) (heap : Heap) (hleft : left.CountsAs x)
    (hright : right.CountsAs y) : IntegerLaws room heap left right x y where
  add := combine_isExactly hleft hright rfl (checked_isExactly _)
  sub := combine_isExactly hleft hright rfl (checked_isExactly _)
  mul := combine_isExactly hleft hright rfl (checked_isExactly _)
  pow := fun hy => combine_isExactly hleft hright
    (if_pos (Int64.le_iff_toInt_le.2 (Int64.toInt_zero.trans_le hy))) (intPower_isExactly hy)
  neg := by
    unfold signed
    rw [hleft.numeric?_eq]
    exact (checked_isExactly _).map Value.int
  abs := result_abs_isExactly room hleft
  byZero := fun hy op hop => by
    obtain rfl : y = 0 := Int64.toInt_inj.1 hy
    rw [combine_of_countsAs hleft hright, intOperation_zero hop]
    rfl
  floorDiv := fun hy => by
    have hy : y ≠ 0 := fun h => hy (congrArg Int64.toInt h)
    obtain ⟨quotient, hdivides, hquotient⟩ := floorDivision (x := x) hy
    rw [hdivides.floor_eq]
    exact combine_isExactly hleft hright (if_neg hy) hquotient
  floorDiv_overflow := fun hy => by
    have hy : y ≠ 0 := fun h => hy (congrArg Int64.toInt h)
    have hleast : x = Int64.minValue ↔ x.toInt = -2 ^ 63 := Int64.toInt_inj.symm
    have hminus : y = -1 ↔ y.toInt = -1 := Int64.toInt_inj.symm
    rw [← hleast, ← hminus, ← intOperation_floorDiv_overflow_iff hy, combine_of_countsAs hleft hright]
    cases intOperation .floorDiv x y <;> simp
  mod := fun hy => by
    have hy : y ≠ 0 := fun h => hy (congrArg Int64.toInt h)
    obtain ⟨quotient, hdivides, -⟩ := floorDivision (x := x) hy
    have hop : intOperation .mod x y = .ok (.int (floorModulus x y)) := if_neg hy
    refine ⟨floorModulus x y, ?_, ?_, hdivides.sign_eq, hdivides.abs_lt⟩
    · rw [combine_of_countsAs hleft hright, hop]
      rfl
    · rw [hdivides.floor_eq]
      exact hdivides.recompose
  inverse := fun hx hy => by
    obtain rfl : x = 0 := Int64.toInt_inj.1 hx
    have hnegative : ¬0 ≤ y := fun h => absurd (Int64.le_iff_toInt_le.1 h) (Int.not_le.2 hy)
    rw [combine_of_countsAs hleft hright, intOperation, if_neg hnegative, if_pos rfl]
    rfl
  unwrapped := fun hy => division_unwrapped fun h => hy (congrArg Int64.toInt h)

/-- The one quotient of two words that is no word, and the remainder beside it. -/
theorem integer_arithmetic_exact_of_least :
    let least : Value := .int Int64.minValue
    least.CountsAs Int64.minValue ∧ (Value.int (-1)).CountsAs (-1) ∧
      IntegerLaws .empty .empty least (.int (-1)) Int64.minValue (-1) ∧
      combine .empty .floorDiv least (.int (-1)) = .error .overflow ∧
      combine .empty .mod least (.int (-1)) = .ok (.value (.int 0)) := by
  intro least
  have hleast : least.CountsAs Int64.minValue := .int _
  have hminus : (Value.int (-1)).CountsAs (-1) := .int _
  have hlaws := integer_arithmetic_exact .empty .empty hleast hminus
  obtain ⟨rest, hmod, -, -, hsmall⟩ := hlaws.mod (by decide)
  have hrest : rest = 0 := Int64.toInt_inj.1 (Int.abs_lt_one_iff.1 hsmall)
  rw [hrest] at hmod
  exact ⟨hleast, hminus, hlaws, (hlaws.floorDiv_overflow (by decide)).2 ⟨rfl, rfl⟩, hmod⟩

end Operators

end Roundtable.Script
