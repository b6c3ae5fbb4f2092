import Mathlib.Algebra.Group.Nat.Defs

/-! Binary interchange format of 32 bits: comparison, addition and subtraction, rounded
to nearest with ties to even. -/

set_option autoImplicit false

namespace ZhuoduControl.Library.Binary32

/-- Finite values in units of the least subnormal number. -/
inductive Value
  | nan
  | infinite (negative : Bool)
  | finite (negative : Bool) (magnitude : Nat)
deriving DecidableEq, Repr

def signBit : Nat := 2 ^ 31

/-- The pattern of the positive infinity. -/
def infinityBits : Nat := 0xFF * 2 ^ 23

def quietNan : BitVec 32 := 0x7FC00000

def decode (bits : BitVec 32) : Value :=
  let negative := decide (signBit ≤ bits.toNat)
  let exponent := bits.toNat / 2 ^ 23 % 2 ^ 8
  let fraction := bits.toNat % 2 ^ 23
  if exponent = 0 then .finite negative fraction
  else if exponent = 0xFF then
    if fraction = 0 then .infinite negative else .nan
  else .finite negative ((2 ^ 23 + fraction) * 2 ^ (exponent - 1))

def roundHalfEven (dividend divisor : Nat) : Nat :=
  let quotient := dividend / divisor
  let twice := 2 * (dividend % divisor)
  if twice < divisor then quotient
  else if divisor < twice then quotient + 1
  else quotient + quotient % 2

/-- The pattern without its sign. A carry out of the fraction increments the exponent,
and one out of the greatest exponent gives the infinity. -/
def encodeMagnitude (magnitude : Nat) : Nat :=
  if magnitude < 2 ^ 24 then magnitude
  else
    let shift := magnitude.log2 - 23
    min infinityBits (shift * 2 ^ 23 + roundHalfEven magnitude (2 ^ shift))

def encode : Value → BitVec 32
  | .nan => quietNan
  | .infinite negative => BitVec.ofNat 32 (infinityBits + if negative then signBit else 0)
  | .finite negative magnitude =>
      BitVec.ofNat 32 (encodeMagnitude magnitude + if negative then signBit else 0)

/-- The pattern nearest to a quotient of units, without its sign. -/
def roundQuotient (dividend divisor : Nat) : Nat :=
  let whole := dividend / divisor
  if whole < 2 ^ 24 then roundHalfEven dividend divisor
  else
    let shift := whole.log2 - 23
    min infinityBits (shift * 2 ^ 23 + roundHalfEven dividend (divisor * 2 ^ shift))

/-- The pattern nearest to a rational number. -/
def ofRat (value : Rat) : BitVec 32 :=
  BitVec.ofNat 32 (roundQuotient (value.num.natAbs * 2 ^ 149) value.den +
    if value < 0 then signBit else 0)

section Rounding

theorem roundHalfEven_le {dividend divisor bound : Nat} (positive : 0 < divisor)
    (below : dividend ≤ bound * divisor) : roundHalfEven dividend divisor ≤ bound := by
  have parts := Nat.div_add_mod dividend divisor
  have quotient := Nat.div_le_of_le_mul (Nat.mul_comm bound divisor ▸ below)
  unfold roundHalfEven
  rcases Nat.lt_or_eq_of_le quotient with less | same
  · have parity := Nat.mod_lt (dividend / divisor) (by decide : 0 < 2)
    simp only
    split
    · exact quotient
    · split
      · exact less
      · omega
  · have whole : dividend % divisor = 0 := by
      rw [same, Nat.mul_comm] at parts
      omega
    rw [whole, Nat.mul_zero, if_pos positive]
    exact quotient

/-- What is far below the greatest number does not round to the infinity. -/
theorem roundQuotient_lt {dividend divisor : Nat} (positive : 0 < divisor)
    (below : dividend / divisor < 2 ^ 250) : roundQuotient dividend divisor < infinityBits := by
  have inside : dividend < (dividend / divisor + 1) * divisor := by
    rw [Nat.mul_comm]
    exact Nat.lt_mul_div_succ dividend positive
  unfold roundQuotient
  dsimp only
  split
  · next small =>
      have rounded : roundHalfEven dividend divisor ≤ 2 ^ 24 :=
        roundHalfEven_le positive (Nat.le_trans (Nat.le_of_lt inside) (Nat.mul_le_mul_right _ small))
      exact Nat.lt_of_le_of_lt rounded (by decide)
  · next large =>
      have nonzero : dividend / divisor ≠ 0 := by omega
      have upper : (dividend / divisor).log2 < 250 := (Nat.log2_lt nonzero).mpr below
      have next : dividend / divisor + 1 ≤ 2 ^ ((dividend / divisor).log2 + 1) :=
        (Nat.log2_lt nonzero).mp (Nat.lt_succ_self _)
      have lower : 24 ≤ (dividend / divisor).log2 :=
        (Nat.le_log2 nonzero).mpr (Nat.le_of_not_lt large)
      generalize (dividend / divisor).log2 = log at upper next lower ⊢
      have split : 2 ^ (log + 1) = 2 ^ 24 * 2 ^ (log - 23) := by
        rw [← Nat.pow_add]
        exact congrArg _ (by omega)
      have rounded : roundHalfEven dividend (divisor * 2 ^ (log - 23)) ≤ 2 ^ 24 := by
        refine roundHalfEven_le (Nat.mul_pos positive (Nat.two_pow_pos _)) ?_
        calc dividend ≤ (dividend / divisor + 1) * divisor := Nat.le_of_lt inside
          _ ≤ 2 ^ 24 * 2 ^ (log - 23) * divisor := Nat.mul_le_mul_right _ (split ▸ next)
          _ = 2 ^ 24 * (divisor * 2 ^ (log - 23)) := by
            rw [Nat.mul_assoc, Nat.mul_comm divisor]
      have scaled : (log - 23) * 2 ^ 23 ≤ 226 * 2 ^ 23 := Nat.mul_le_mul_right _ (by omega)
      refine Nat.lt_of_le_of_lt (Nat.min_le_right _ _) ?_
      exact Nat.lt_of_le_of_lt (Nat.add_le_add scaled rounded) (by decide)

/-- A number of ordinary size has a finite pattern. -/
theorem ofRat_finite {value : Rat} (small : value.num.natAbs < 2 ^ 101 * value.den) :
    ∃ negative magnitude, decode (ofRat value) = .finite negative magnitude := by
  have whole : value.num.natAbs * 2 ^ 149 / value.den < 2 ^ 250 := by
    refine Nat.div_lt_of_lt_mul ?_
    calc value.num.natAbs * 2 ^ 149 < 2 ^ 101 * value.den * 2 ^ 149 :=
          Nat.mul_lt_mul_of_pos_right small (Nat.two_pow_pos 149)
      _ = value.den * 2 ^ 250 := by
          rw [Nat.mul_comm (2 ^ 101), Nat.mul_assoc, ← Nat.pow_add]
  have rounded := roundQuotient_lt value.den_pos whole
  have bits : (ofRat value).toNat / 2 ^ 23 % 2 ^ 8 ≠ 0xFF := by
    unfold infinityBits at rounded
    unfold ofRat signBit
    rw [BitVec.toNat_ofNat]
    split <;> omega
  unfold decode
  dsimp only
  split
  · exact ⟨_, _, rfl⟩
  · exact ⟨_, _, rfl⟩

end Rounding

def signed (negative : Bool) (magnitude : Nat) : Int :=
  if negative then -magnitude else magnitude

/-- A sum of opposite numbers is the positive zero; only two negative zeros give the
negative one. -/
def Value.add : Value → Value → Value
  | .nan, _ => .nan
  | _, .nan => .nan
  | .infinite first, .infinite second => if first = second then .infinite first else .nan
  | .infinite first, .finite _ _ => .infinite first
  | .finite _ _, .infinite second => .infinite second
  | .finite first left, .finite second right =>
      let sum := signed first left + signed second right
      if sum = 0 then .finite (first && second) 0 else .finite (decide (sum < 0)) sum.natAbs

def Value.neg : Value → Value
  | .nan => .nan
  | .infinite negative => .infinite (!negative)
  | .finite negative magnitude => .finite (!negative) magnitude

def add (left right : BitVec 32) : BitVec 32 :=
  encode ((decode left).add (decode right))

def sub (left right : BitVec 32) : BitVec 32 :=
  encode ((decode left).add (decode right).neg)

/-- The place of a value in the order, above every finite one for an infinity. -/
def Value.rank : Value → Option Int
  | .nan => none
  | .infinite negative => some (signed negative (2 ^ 277))
  | .finite negative magnitude => some (signed negative magnitude)

/-- Nothing is less than a NaN, and a NaN is less than nothing. -/
def lt (left right : BitVec 32) : Bool :=
  match (decode left).rank, (decode right).rank with
  | some first, some second => decide (first < second)
  | _, _ => false

end ZhuoduControl.Library.Binary32
