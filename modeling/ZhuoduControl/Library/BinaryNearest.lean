import Mathlib.Algebra.Order.Ring.Unbundled.Rat
import ZhuoduControl.Library.Binary32

/-! How near `ofRat` comes to a number, and that the number of its tenths can be read off. -/

set_option autoImplicit false

namespace ZhuoduControl.Library.Binary32

section Rounding

variable {dividend divisor value : Nat}

/-- Twice the error of a rounding is at most the divisor. -/
theorem roundHalfEven_near (dividend : Nat) (positive : 0 < divisor) :
    2 * (divisor * roundHalfEven dividend divisor) ≤ 2 * dividend + divisor ∧
      2 * dividend ≤ 2 * (divisor * roundHalfEven dividend divisor) + divisor := by
  have parts := Nat.div_add_mod dividend divisor
  have remainder := Nat.mod_lt dividend positive
  have next : divisor * (dividend / divisor + 1) = divisor * (dividend / divisor) + divisor :=
    Nat.mul_succ _ _
  have parity := Nat.mod_lt (dividend / divisor) (by decide : 0 < 2)
  unfold roundHalfEven
  dsimp only
  split
  · omega
  · split
    · omega
    · obtain even | odd : dividend / divisor % 2 = 0 ∨ dividend / divisor % 2 = 1 := by omega
      · rw [even, Nat.add_zero]
        omega
      · rw [odd]
        omega

theorem roundHalfEven_eq (positive : 0 < divisor)
    (above : 2 * (divisor * value) < 2 * dividend + divisor)
    (below : 2 * dividend < 2 * (divisor * value) + divisor) :
    roundHalfEven dividend divisor = value := by
  obtain ⟨upper, lower⟩ := roundHalfEven_near dividend positive
  rcases Nat.lt_trichotomy (roundHalfEven dividend divisor) value with less | same | greater
  · have apart := Nat.mul_le_mul_left divisor (Nat.succ_le_of_lt less)
    rw [Nat.mul_succ] at apart
    omega
  · exact same
  · have apart := Nat.mul_le_mul_left divisor (Nat.succ_le_of_lt greater)
    rw [Nat.mul_succ] at apart
    omega

theorem le_roundHalfEven {bound : Nat} (positive : 0 < divisor)
    (above : bound * divisor ≤ dividend) : bound ≤ roundHalfEven dividend divisor := by
  have quotient : bound ≤ dividend / divisor := (Nat.le_div_iff_mul_le positive).mpr above
  unfold roundHalfEven
  dsimp only
  split
  · exact quotient
  · split
    · omega
    · omega

end Rounding

section Patterns

theorem decode_parts (negative : Bool) {exponent fraction : Nat} (finite : exponent < 0xFF)
    (small : fraction < 2 ^ 23) :
    decode (BitVec.ofNat 32 (exponent * 2 ^ 23 + fraction + if negative then signBit else 0)) =
      if exponent = 0 then .finite negative fraction
      else .finite negative ((2 ^ 23 + fraction) * 2 ^ (exponent - 1)) := by
  have parts : ∀ bits : Nat, bits = exponent * 2 ^ 23 + fraction + (if negative then signBit else 0) →
      bits < 2 ^ 32 ∧ decide (signBit ≤ bits) = negative ∧ bits / 2 ^ 23 % 2 ^ 8 = exponent ∧
        bits % 2 ^ 23 = fraction := by
    intro bits same
    unfold signBit at same ⊢
    cases negative with
    | false =>
        rw [if_neg Bool.false_ne_true] at same
        refine ⟨by omega, decide_eq_false (by omega), by omega, by omega⟩
    | true =>
        rw [if_pos rfl] at same
        refine ⟨by omega, decide_eq_true (by omega), by omega, by omega⟩
  obtain ⟨bound, sign, middle, low⟩ := parts _ rfl
  unfold decode
  dsimp only
  rw [BitVec.toNat_ofNat, Nat.mod_eq_of_lt bound, sign, middle, low, if_neg (Nat.ne_of_lt finite)]

/-- A rounding into the next power of two is carried into the exponent. -/
theorem decode_shifted (negative : Bool) {shift rounded : Nat} (lower : 2 ^ 23 ≤ rounded)
    (upper : rounded ≤ 2 ^ 24) (finite : shift * 2 ^ 23 + rounded < infinityBits) :
    decode (BitVec.ofNat 32 (shift * 2 ^ 23 + rounded + if negative then signBit else 0)) =
      .finite negative (rounded * 2 ^ shift) := by
  unfold infinityBits at finite
  rcases Nat.lt_or_eq_of_le upper with below | carried
  · have split : shift * 2 ^ 23 + rounded = (shift + 1) * 2 ^ 23 + (rounded - 2 ^ 23) := by omega
    rw [split, decode_parts negative (by omega) (by omega), if_neg (Nat.succ_ne_zero shift),
      Nat.add_sub_cancel, Nat.add_sub_cancel' lower]
  · have split : shift * 2 ^ 23 + rounded = (shift + 2) * 2 ^ 23 + 0 := by omega
    rw [split, decode_parts negative (by omega) (by decide), if_neg (Nat.succ_ne_zero (shift + 1)),
      carried]
    refine congrArg (Value.finite negative) ?_
    have exponent : shift + 2 - 1 = shift + 1 := rfl
    rw [exponent, Nat.add_zero, Nat.pow_succ 2 shift, Nat.mul_comm (2 ^ shift) 2, ← Nat.mul_assoc]
    rfl

end Patterns

/-- The finite numbers next to a quotient: the error is at most a part in `2 ^ 24`, and half
a unit for the least numbers. -/
structure Near (dividend divisor magnitude : Nat) : Prop where
  upper : 2 ^ 24 * (divisor * magnitude) ≤ 2 ^ 24 * dividend + (dividend + 2 ^ 23 * divisor)
  lower : 2 ^ 24 * dividend ≤ 2 ^ 24 * (divisor * magnitude) + (dividend + 2 ^ 23 * divisor)

theorem decode_roundQuotient (negative : Bool) {dividend divisor : Nat} (positive : 0 < divisor)
    (below : dividend / divisor < 2 ^ 250) :
    ∃ magnitude, decode (BitVec.ofNat 32
        (roundQuotient dividend divisor + if negative then signBit else 0)) =
          .finite negative magnitude ∧ Near dividend divisor magnitude := by
  have finite := roundQuotient_lt positive below
  have inside : dividend < (dividend / divisor + 1) * divisor := by
    rw [Nat.mul_comm]
    exact Nat.lt_mul_div_succ dividend positive
  unfold roundQuotient at finite ⊢
  dsimp only at finite ⊢
  split
  · next small =>
      rw [if_pos small] at finite
      obtain ⟨upper, lower⟩ := roundHalfEven_near dividend positive
      refine ⟨roundHalfEven dividend divisor, ?_, by omega, by omega⟩
      have bound : roundHalfEven dividend divisor ≤ 2 ^ 24 :=
        roundHalfEven_le positive (Nat.le_trans (Nat.le_of_lt inside) (Nat.mul_le_mul_right _ small))
      have shape : roundHalfEven dividend divisor = 0 * 2 ^ 23 + roundHalfEven dividend divisor := by
        omega
      rcases Nat.lt_or_ge (roundHalfEven dividend divisor) (2 ^ 23) with less | least
      · rw [shape, decode_parts negative (by decide) less, if_pos rfl, ← shape]
      · rw [shape, decode_shifted negative least bound (shape ▸ finite), Nat.pow_zero, Nat.mul_one,
          ← shape]
  · next large =>
      rw [if_neg large] at finite
      have nonzero : dividend / divisor ≠ 0 := by omega
      have lowest : 2 ^ (dividend / divisor).log2 ≤ dividend / divisor := Nat.log2_self_le nonzero
      have next : dividend / divisor + 1 ≤ 2 ^ ((dividend / divisor).log2 + 1) :=
        (Nat.log2_lt nonzero).mp (Nat.lt_succ_self _)
      have many : 24 ≤ (dividend / divisor).log2 :=
        (Nat.le_log2 nonzero).mpr (Nat.le_of_not_lt large)
      have whole : dividend / divisor * divisor ≤ dividend := Nat.div_mul_le_self dividend divisor
      generalize (dividend / divisor).log2 = log at lowest next many finite ⊢
      obtain ⟨shift, rfl⟩ := Nat.exists_eq_add_of_le' (Nat.le_trans (by decide : 23 ≤ 24) many)
      rw [Nat.add_sub_cancel] at finite ⊢
      have wide : 0 < divisor * 2 ^ shift := Nat.mul_pos positive (Nat.two_pow_pos shift)
      have scaled : 2 ^ 23 * (divisor * 2 ^ shift) ≤ dividend := by
        calc 2 ^ 23 * (divisor * 2 ^ shift) = 2 ^ (shift + 23) * divisor := by
              rw [Nat.pow_add, Nat.mul_comm (2 ^ shift), Nat.mul_assoc, Nat.mul_comm divisor]
          _ ≤ dividend / divisor * divisor := Nat.mul_le_mul_right _ lowest
          _ ≤ dividend := whole
      have least : 2 ^ 23 ≤ roundHalfEven dividend (divisor * 2 ^ shift) :=
        le_roundHalfEven wide scaled
      have most : roundHalfEven dividend (divisor * 2 ^ shift) ≤ 2 ^ 24 := by
        refine roundHalfEven_le wide ?_
        calc dividend ≤ (dividend / divisor + 1) * divisor := Nat.le_of_lt inside
          _ ≤ 2 ^ (shift + 23 + 1) * divisor := Nat.mul_le_mul_right _ next
          _ = 2 ^ 24 * (divisor * 2 ^ shift) := by
            rw [Nat.add_assoc, Nat.pow_add, Nat.mul_comm (2 ^ shift), Nat.mul_assoc,
              Nat.mul_comm divisor]
      have fits : shift * 2 ^ 23 + roundHalfEven dividend (divisor * 2 ^ shift) < infinityBits := by
        unfold infinityBits at finite ⊢
        omega
      rw [Nat.min_eq_right (Nat.le_of_lt fits)]
      refine ⟨_, decode_shifted negative least most fits, ?_⟩
      obtain ⟨upper, lower⟩ := roundHalfEven_near dividend wide
      have product : divisor * (roundHalfEven dividend (divisor * 2 ^ shift) * 2 ^ shift) =
          divisor * 2 ^ shift * roundHalfEven dividend (divisor * 2 ^ shift) := by
        rw [Nat.mul_comm (roundHalfEven _ _), Nat.mul_assoc]
      constructor
      · rw [product]
        omega
      · rw [product]
        omega

theorem Near.scale {dividend divisor magnitude scaled factor : Nat} (positive : 0 < divisor)
    (same : dividend * factor = scaled * divisor) (near : Near dividend divisor magnitude) :
    Near scaled factor magnitude := by
  have upper := Nat.mul_le_mul_right factor near.upper
  have lower := Nat.mul_le_mul_right factor near.lower
  have product : divisor * (magnitude * factor) = factor * (magnitude * divisor) := by
    rw [Nat.mul_comm, Nat.mul_comm magnitude factor, Nat.mul_assoc]
  have commuted : 2 ^ 23 * divisor * factor = 2 ^ 23 * factor * divisor := Nat.mul_right_comm _ _ _
  constructor
  · refine Nat.le_of_mul_le_mul_right ?_ positive
    rw [Nat.add_mul, Nat.add_mul, Nat.mul_assoc, Nat.mul_assoc, Nat.mul_assoc] at upper ⊢
    rw [product, same, commuted] at upper
    exact upper
  · refine Nat.le_of_mul_le_mul_right ?_ positive
    rw [Nat.add_mul, Nat.add_mul, Nat.mul_assoc, Nat.mul_assoc, Nat.mul_assoc] at lower ⊢
    rw [product, same, commuted] at lower
    exact lower

/-- The pattern of a fraction, in lowest terms or not. -/
theorem decode_ofRat (numerator : Int) {divisor : Nat} (positive : 0 < divisor)
    (below : numerator.natAbs < 2 ^ 101 * divisor) :
    ∃ magnitude, decode (ofRat (mkRat numerator divisor)) =
        .finite (decide (numerator < 0)) magnitude ∧
      Near (numerator.natAbs * 2 ^ 149) divisor magnitude := by
  have nonzero : divisor ≠ 0 := Nat.ne_of_gt positive
  have sign := Rat.mkRat_neg_iff numerator nonzero
  have cross : (mkRat numerator divisor).num.natAbs * divisor =
      numerator.natAbs * (mkRat numerator divisor).den := by
    have same := (Rat.mkRat_eq_iff (mkRat numerator divisor).den_nz nonzero).mp
      (Rat.mkRat_self (mkRat numerator divisor))
    have absolute := congrArg Int.natAbs same
    rwa [Int.natAbs_mul, Int.natAbs_mul, Int.natAbs_natCast, Int.natAbs_natCast] at absolute
  unfold ofRat
  generalize mkRat numerator divisor = value at sign cross ⊢
  have small : value.num.natAbs < 2 ^ 101 * value.den := by
    refine Nat.lt_of_mul_lt_mul_right (a := divisor) ?_
    rw [cross, Nat.mul_right_comm]
    exact Nat.mul_lt_mul_of_pos_right below value.den_pos
  have whole : value.num.natAbs * 2 ^ 149 / value.den < 2 ^ 250 := by
    refine Nat.div_lt_of_lt_mul ?_
    calc value.num.natAbs * 2 ^ 149 < 2 ^ 101 * value.den * 2 ^ 149 :=
          Nat.mul_lt_mul_of_pos_right small (Nat.two_pow_pos 149)
      _ = value.den * 2 ^ 250 := by
          rw [Nat.mul_comm (2 ^ 101), Nat.mul_assoc, ← Nat.pow_add]
  obtain ⟨magnitude, decoded, near⟩ :=
    decode_roundQuotient (decide (numerator < 0)) value.den_pos whole
  refine ⟨magnitude, ?_, near.scale value.den_pos ?_⟩
  · rw [← decoded]
    simp only [sign, decide_eq_true_eq]
  · rw [Nat.mul_right_comm, cross, Nat.mul_right_comm]

/-- The pattern of a number of tenths keeps this number. -/
theorem tenths_of_near {count magnitude : Nat} (small : count ≤ 2 ^ 20)
    (near : Near (count * 2 ^ 149) 10 magnitude) :
    roundHalfEven (10 * magnitude) (2 ^ 149) = count := by
  obtain ⟨upper, lower⟩ := near
  have bound : count * 2 ^ 149 ≤ 2 ^ 20 * 2 ^ 149 := Nat.mul_le_mul_right _ small
  refine roundHalfEven_eq (Nat.two_pow_pos 149) ?_ ?_
  · omega
  · omega

end ZhuoduControl.Library.Binary32
