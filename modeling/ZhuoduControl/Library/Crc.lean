import Mathlib.Algebra.Field.ZMod
import Mathlib.Algebra.Polynomial.Div
import Mathlib.Algebra.CharP.Two
import Mathlib.Data.ZMod.Basic
import Mathlib.RingTheory.Coprime.Lemmas
import Mathlib.Tactic.Ring
import Mathlib.Tactic.LinearCombination

/-! Cyclic redundancy checks that take the lowest bit of a byte first: the register of
the check is the remainder of a polynomial over `ZMod 2`, and what follows from that for
the errors it detects. -/

set_option autoImplicit false

namespace ZhuoduControl.Library.Crc

open Polynomial

variable {width : Nat}

/-- One clock of the register; `taps` holds the polynomial without its leading term,
highest degree in bit 0. -/
def shift (taps register : BitVec width) : BitVec width :=
  if register.getLsbD 0 then (register >>> 1) ^^^ taps else register >>> 1

def shifts (taps : BitVec width) : Nat → BitVec width → BitVec width
  | 0, register => register
  | count + 1, register => shifts taps count (shift taps register)

/-- Put a bit on the lowest place of the register and clock it. -/
def feedBit (taps register : BitVec width) (bit : Bool) : BitVec width :=
  shift taps (register ^^^ (BitVec.ofBool bit).setWidth width)

def feed (taps register : BitVec width) (bits : List Bool) : BitVec width :=
  bits.foldl (feedBit taps) register

/-- The bits of a word in the order in which they are sent. -/
def bitsOf {size : Nat} (word : BitVec size) : List Bool :=
  (List.range size).map word.getLsbD

/-- The polynomial of a message, first bit at the highest degree. -/
noncomputable def ofBits : List Bool → (ZMod 2)[X]
  | [] => 0
  | bit :: rest => (if bit then X ^ rest.length else 0) + ofBits rest

/-- The polynomial of the register, bit 0 at the highest degree. -/
noncomputable def ofRegister (register : BitVec width) : (ZMod 2)[X] :=
  ofBits (bitsOf register)

noncomputable def generator (taps : BitVec width) : (ZMod 2)[X] :=
  X ^ width + ofRegister taps

section Bits

theorem length_bitsOf {size : Nat} (word : BitVec size) : (bitsOf word).length = size := by
  simp [bitsOf]

theorem getElem_bitsOf {size : Nat} (word : BitVec size) (index : Nat)
    (inside : index < (bitsOf word).length) : (bitsOf word)[index] = word.getLsbD index := by
  simp [bitsOf]

theorem bitsOf_injective {size : Nat} {first second : BitVec size}
    (same : bitsOf first = bitsOf second) : first = second := by
  apply BitVec.eq_of_getLsbD_eq
  intro index inside
  have bound : ∀ word : BitVec size, index < (bitsOf word).length :=
    fun word => (length_bitsOf word).symm ▸ inside
  rw [← getElem_bitsOf first index (bound first), ← getElem_bitsOf second index (bound second)]
  simp only [same]

theorem bitsOf_xor {size : Nat} (first second : BitVec size) :
    bitsOf (first ^^^ second) = List.zipWith xor (bitsOf first) (bitsOf second) := by
  simp [bitsOf, List.zipWith_map]

end Bits

section Messages

theorem ofBits_append (first second : List Bool) :
    ofBits (first ++ second) = ofBits first * X ^ second.length + ofBits second := by
  induction first with
  | nil => simp [ofBits]
  | cons bit rest ih =>
      rw [List.cons_append, ofBits, ofBits, ih, List.length_append]
      cases bit <;> simp [add_mul, pow_add, add_assoc]

theorem ofBits_replicate_false (count : Nat) : ofBits (List.replicate count false) = 0 := by
  induction count with
  | zero => rfl
  | succ count ih => simp [List.replicate_succ, ofBits, ih]

theorem add_self_zero (polynomial : (ZMod 2)[X]) : polynomial + polynomial = 0 :=
  CharTwo.add_self_eq_zero polynomial

theorem ofBits_zipWith {first second : List Bool} (same : first.length = second.length) :
    ofBits (List.zipWith xor first second) = ofBits first + ofBits second := by
  induction first generalizing second with
  | nil =>
      cases second with
      | nil => simp [ofBits]
      | cons bit rest => cases same
  | cons bit rest ih =>
      cases second with
      | nil => cases same
      | cons other others =>
          have lengths : rest.length = others.length := Nat.succ.inj same
          rw [List.zipWith_cons_cons, ofBits, ofBits, ofBits, ih lengths, List.length_zipWith,
            lengths, Nat.min_self]
          cases bit <;> cases other <;> simp [add_assoc, add_left_comm]
          rw [← add_assoc, add_self_zero, zero_add]

theorem degree_ofBits (bits : List Bool) : (ofBits bits).degree < bits.length := by
  induction bits with
  | nil => simp [ofBits]
  | cons bit rest ih =>
      have longer : (rest.length : WithBot Nat) < (rest.length + 1 : Nat) := by
        exact_mod_cast Nat.lt_succ_self _
      refine lt_of_le_of_lt (degree_add_le _ _) (max_lt ?_ (ih.trans longer))
      cases bit with
      | false => simp
      | true => simpa using longer

theorem coeff_ofBits (bits : List Bool) (index : Nat) (inside : index < bits.length) :
    (ofBits bits).coeff (bits.length - 1 - index) = if bits[index] then 1 else 0 := by
  induction bits generalizing index with
  | nil => cases inside
  | cons bit rest ih =>
      rw [ofBits, coeff_add]
      cases index with
      | zero =>
          have high : (ofBits rest).coeff rest.length = 0 :=
            coeff_eq_zero_of_degree_lt (degree_ofBits rest)
          cases bit <;> simp [high]
      | succ index =>
          have below : index < rest.length := Nat.lt_of_succ_lt_succ inside
          have place : (bit :: rest).length - 1 - (index + 1) = rest.length - 1 - index := by
            simp only [List.length_cons]
            omega
          have apart : rest.length - 1 - index ≠ rest.length := by omega
          rw [place, ih index below]
          cases bit <;> simp [coeff_X_pow, apart]

theorem ofBits_injective {first second : List Bool} (lengths : first.length = second.length)
    (same : ofBits first = ofBits second) : first = second := by
  apply List.ext_getElem lengths
  intro index inside other
  have left := coeff_ofBits first index inside
  have right := coeff_ofBits second index other
  rw [same, lengths, right] at left
  cases one : first[index] <;> cases two : second[index] <;> simp_all

end Messages

section Register

variable {taps register : BitVec width}

theorem degree_ofRegister (register : BitVec width) : (ofRegister register).degree < width := by
  have bound := degree_ofBits (bitsOf register)
  rwa [length_bitsOf] at bound

theorem ofRegister_injective {first second : BitVec width}
    (same : ofRegister first = ofRegister second) : first = second :=
  bitsOf_injective (ofBits_injective (by rw [length_bitsOf, length_bitsOf]) same)

theorem ofRegister_xor (first second : BitVec width) :
    ofRegister (first ^^^ second) = ofRegister first + ofRegister second := by
  have lengths : (bitsOf first).length = (bitsOf second).length := by
    rw [length_bitsOf, length_bitsOf]
  rw [ofRegister, bitsOf_xor, ofBits_zipWith lengths]
  rfl

theorem monic_generator (taps : BitVec width) : (generator taps).Monic :=
  monic_X_pow_add (degree_ofRegister taps)

theorem degree_generator (taps : BitVec width) : (generator taps).degree = width := by
  rw [generator, degree_add_eq_left_of_degree_lt] <;> rw [degree_X_pow]
  exact degree_ofRegister taps

theorem bitsOf_cons (register : BitVec (width + 1)) :
    bitsOf register = register.getLsbD 0 :: (bitsOf register).tail := by
  simp [bitsOf, List.range_succ_eq_map]

theorem bitsOf_shiftRight (register : BitVec (width + 1)) :
    bitsOf (register >>> 1) = (bitsOf register).tail ++ [false] := by
  have left : bitsOf (register >>> 1) =
      (List.range width).map (fun index => register.getLsbD (1 + index)) ++ [false] := by
    simp [bitsOf, List.range_succ]
  have right : (bitsOf register).tail =
      (List.range width).map fun index => register.getLsbD (1 + index) := by
    simp [bitsOf, List.range_succ_eq_map, Nat.add_comm]
  rw [left, right]

/-- Clocking the register multiplies by `X`, up to the generator. -/
theorem ofRegister_shift (taps register : BitVec (width + 1)) :
    ofRegister (shift taps register) =
      X * ofRegister register + if register.getLsbD 0 then generator taps else 0 := by
  have tail_length : (bitsOf register).tail.length = width := by
    rw [List.length_tail, length_bitsOf, Nat.add_sub_cancel]
  have moved : X * ofRegister register =
      (if register.getLsbD 0 then X ^ (width + 1) else 0) + ofRegister (register >>> 1) := by
    have shifted : ofRegister (register >>> 1) = ofBits (bitsOf register).tail * X := by
      rw [ofRegister, bitsOf_shiftRight, ofBits_append]
      simp [ofBits]
    rw [shifted, ofRegister, bitsOf_cons, ofBits, tail_length, List.tail_cons, mul_add]
    cases register.getLsbD 0 <;> simp [pow_succ, mul_comm]
  rw [moved]
  unfold shift generator
  cases register.getLsbD 0 with
  | false => simp
  | true =>
      simp only [if_true, ofRegister_xor]
      rw [add_add_add_comm, add_self_zero, zero_add]

theorem ofRegister_lowBit (bit : Bool) :
    ofRegister ((BitVec.ofBool bit).setWidth (width + 1)) = if bit then X ^ width else 0 := by
  have bits : bitsOf ((BitVec.ofBool bit).setWidth (width + 1)) =
      bit :: List.replicate width false := by
    apply List.ext_getElem
    · simp [length_bitsOf]
    intro index inside other
    rw [getElem_bitsOf, BitVec.getLsbD_setWidth]
    cases index with
    | zero => cases bit <;> rfl
    | succ index => simp
  rw [ofRegister, bits, ofBits, ofBits_replicate_false, List.length_replicate, add_zero]

/-- The register is the remainder of the message behind its initial value. -/
theorem ofRegister_feed (taps register : BitVec (width + 1)) (bits : List Bool) :
    ofRegister (feed taps register bits) =
      (ofRegister register * X ^ bits.length + ofBits bits * X ^ (width + 1)) %ₘ
        generator taps := by
  induction bits generalizing register with
  | nil =>
      have small : (ofRegister register).degree < (generator taps).degree := by
        rw [degree_generator]
        exact degree_ofRegister register
      simpa [feed, ofBits] using ((modByMonic_eq_self_iff (monic_generator taps)).mpr small).symm
  | cons bit rest ih =>
      have fed : feed taps register (bit :: rest) = feed taps (feedBit taps register bit) rest := rfl
      rw [fed, ih]
      apply modByMonic_eq_of_dvd_sub (monic_generator taps)
      have clocked : ∃ quotient, ofRegister (feedBit taps register bit) =
          X * (ofRegister register + if bit then X ^ width else 0) + generator taps * quotient := by
        let mixed := register ^^^ (BitVec.ofBool bit).setWidth (width + 1)
        refine ⟨if mixed.getLsbD 0 then 1 else 0, ?_⟩
        rw [feedBit, ofRegister_shift, ofRegister_xor, ofRegister_lowBit, mul_ite, mul_one,
          mul_zero]
      obtain ⟨quotient, clocked⟩ := clocked
      rw [clocked, ofBits, List.length_cons]
      refine ⟨quotient * X ^ rest.length, ?_⟩
      cases bit <;> simp <;> ring

theorem ofRegister_shifts (taps register : BitVec (width + 1)) (count : Nat) :
    ofRegister (shifts taps count register) =
      (X ^ count * ofRegister register) %ₘ generator taps := by
  induction count generalizing register with
  | zero =>
      have small : (ofRegister register).degree < (generator taps).degree := by
        rw [degree_generator]
        exact degree_ofRegister register
      simpa [shifts] using ((modByMonic_eq_self_iff (monic_generator taps)).mpr small).symm
  | succ count ih =>
      rw [shifts, ih, ofRegister_shift]
      apply modByMonic_eq_of_dvd_sub (monic_generator taps)
      refine ⟨if register.getLsbD 0 then X ^ count else 0, ?_⟩
      cases register.getLsbD 0 <;> simp <;> ring

theorem shifts_xor (taps first second : BitVec (width + 1)) (count : Nat) :
    shifts taps count (first ^^^ second) = shifts taps count first ^^^ shifts taps count second := by
  apply ofRegister_injective
  rw [ofRegister_shifts, ofRegister_xor, ofRegister_xor, ofRegister_shifts, ofRegister_shifts,
    mul_add, add_modByMonic]

theorem bitsOf_setWidth {size more : Nat} (word : BitVec size) :
    bitsOf (word.setWidth (size + more)) = bitsOf word ++ List.replicate more false := by
  apply List.ext_getElem
  · simp [length_bitsOf]
  intro index inside other
  rw [length_bitsOf] at inside
  rw [getElem_bitsOf, BitVec.getLsbD_setWidth]
  by_cases low : index < size
  · rw [List.getElem_append_left (by rwa [length_bitsOf]), getElem_bitsOf]
    simp [inside]
  · rw [List.getElem_append_right (by rw [length_bitsOf]; omega), List.getElem_replicate,
      BitVec.getLsbD_of_ge _ _ (Nat.le_of_not_lt low), Bool.and_false]

/-- The bits of a word can be put on the register together. -/
theorem feed_word {size : Nat} (taps register : BitVec (width + 1)) (word : BitVec size)
    (narrow : size ≤ width + 1) :
    feed taps register (bitsOf word) =
      shifts taps size (register ^^^ word.setWidth (width + 1)) := by
  obtain ⟨more, wide⟩ := Nat.exists_eq_add_of_le narrow
  have extended : ofRegister (word.setWidth (width + 1)) = ofBits (bitsOf word) * X ^ more := by
    rw [ofRegister, wide, bitsOf_setWidth, ofBits_append, ofBits_replicate_false,
      List.length_replicate, add_zero]
  have power : (X : (ZMod 2)[X]) ^ (width + 1) = X ^ size * X ^ more := by rw [wide, pow_add]
  apply ofRegister_injective
  rw [ofRegister_feed, ofRegister_shifts, ofRegister_xor, extended, length_bitsOf, power]
  congr 1
  ring

end Register

section Detection

variable {taps register : BitVec (width + 1)} {first second : List Bool}

/-- The number of places in which two messages differ. -/
def distance (first second : List Bool) : Nat := (List.zipWith xor first second).count true

theorem coprime_generator (constant : taps.getLsbD width = true) :
    IsCoprime (generator taps) X := by
  have bits : (ofRegister taps).coeff 0 = 1 := by
    have inside : width < (bitsOf taps).length := by
      rw [length_bitsOf]
      exact Nat.lt_succ_self width
    have lowest := coeff_ofBits (bitsOf taps) width inside
    rw [length_bitsOf, Nat.add_sub_cancel, Nat.sub_self, getElem_bitsOf, constant] at lowest
    exact lowest
  have one : (generator taps).coeff 0 = 1 := by
    rw [generator, coeff_add, bits]
    simp
  refine ⟨1, -(generator taps).divX, ?_⟩
  have split := divX_mul_X_add (generator taps)
  rw [one, C_1] at split
  calc 1 * generator taps + -(generator taps).divX * X
      = ((generator taps).divX * X + 1) + -(generator taps).divX * X := by rw [split, one_mul]
    _ = 1 := by ring

/-- Messages that leave the same register differ by a multiple of the generator. -/
theorem generator_dvd_add (constant : taps.getLsbD width = true)
    (lengths : first.length = second.length)
    (same : feed taps register first = feed taps register second) :
    generator taps ∣ ofBits first + ofBits second := by
  have remainders := congrArg ofRegister same
  rw [ofRegister_feed, ofRegister_feed, lengths] at remainders
  have zero : ((ofBits first + ofBits second) * X ^ (width + 1)) %ₘ generator taps = 0 := by
    rw [add_mul, add_modByMonic]
    rw [add_modByMonic, add_modByMonic] at remainders
    rw [add_left_cancel remainders, add_self_zero]
  have divides := (modByMonic_eq_zero_iff_dvd (monic_generator taps)).mp zero
  exact ((coprime_generator constant).pow_right).dvd_of_dvd_mul_right divides

/-- Errors that lie within the width of the register are detected. -/
theorem burst_detected (constant : taps.getLsbD width = true)
    {lead left right trail : List Bool} (lengths : left.length = right.length)
    (short : left.length ≤ width + 1)
    (same : feed taps register (lead ++ left ++ trail) =
      feed taps register (lead ++ right ++ trail)) : left = right := by
  have equal : (lead ++ left ++ trail).length = (lead ++ right ++ trail).length := by
    simp [lengths]
  have divides := generator_dvd_add constant equal same
  have product : ofBits (lead ++ left ++ trail) + ofBits (lead ++ right ++ trail) =
      (ofBits left + ofBits right) * X ^ trail.length := by
    rw [ofBits_append, ofBits_append, ofBits_append, ofBits_append, lengths]
    have lead_twice := add_self_zero (ofBits lead * X ^ right.length * X ^ trail.length)
    have trail_twice := add_self_zero (ofBits trail)
    linear_combination lead_twice + trail_twice
  rw [product] at divides
  have burst := ((coprime_generator constant).pow_right).dvd_of_dvd_mul_right divides
  have small : (ofBits left + ofBits right).degree < (generator taps).degree := by
    rw [degree_generator]
    have bound : (left.length : WithBot Nat) ≤ (width + 1 : Nat) := by exact_mod_cast short
    refine lt_of_le_of_lt (degree_add_le _ _) (max_lt ?_ ?_)
    · exact lt_of_lt_of_le (degree_ofBits left) bound
    · exact lt_of_lt_of_le (degree_ofBits right) (lengths ▸ bound)
  have monic := monic_generator taps
  have zero : ofBits left + ofBits right = 0 :=
    ((modByMonic_eq_self_iff monic).mpr small).symm.trans
      ((modByMonic_eq_zero_iff_dvd monic).mpr burst)
  apply ofBits_injective lengths
  calc ofBits left = ofBits left + (ofBits right + ofBits right) := by rw [add_self_zero, add_zero]
    _ = ofBits right := by rw [← add_assoc, zero, zero_add]

theorem eval_one_ofBits (bits : List Bool) : (ofBits bits).eval 1 = (bits.count true : ZMod 2) := by
  induction bits with
  | nil => simp [ofBits]
  | cons bit rest ih => cases bit <;> simp [ofBits, ih, add_comm]

/-- A generator with an even number of terms detects every odd number of errors. -/
theorem even_distance (constant : taps.getLsbD width = true)
    (terms : (bitsOf taps).count true % 2 = 1) (lengths : first.length = second.length)
    (same : feed taps register first = feed taps register second) :
    distance first second % 2 = 0 := by
  obtain ⟨quotient, product⟩ := generator_dvd_add constant lengths same
  have root : (generator taps).eval 1 = 0 := by
    have odd : ((bitsOf taps).count true : ZMod 2) = 1 := by
      rw [← ZMod.natCast_mod, terms, Nat.cast_one]
    rw [generator, eval_add, ofRegister, eval_one_ofBits, odd]
    simp
    decide
  have zero := congrArg (eval 1) product
  rw [← ofBits_zipWith lengths, eval_one_ofBits, eval_mul, root, zero_mul] at zero
  exact Nat.mod_eq_zero_of_dvd ((ZMod.natCast_eq_zero_iff _ 2).mp zero)

theorem count_true_split {bits : List Bool} {count : Nat} (counted : bits.count true = count + 1) :
    ∃ before after, bits = List.replicate before false ++ true :: after ∧
      after.count true = count := by
  induction bits with
  | nil => cases counted
  | cons bit rest ih =>
      cases bit with
      | true => exact ⟨0, rest, rfl, by simpa using counted⟩
      | false =>
          obtain ⟨before, after, rfl, remaining⟩ := ih (by simpa using counted)
          exact ⟨before + 1, after, rfl, remaining⟩

theorem count_true_zero {bits : List Bool} (counted : bits.count true = 0) :
    bits = List.replicate bits.length false := by
  rw [List.count_eq_zero] at counted
  refine List.eq_replicate_length.mpr fun bit member => ?_
  cases bit with
  | false => rfl
  | true => exact absurd member counted

/-- The register of the polynomial 1. -/
def unit (width : Nat) : BitVec (width + 1) := BitVec.twoPow (width + 1) width

theorem ofRegister_unit : ofRegister (unit width) = 1 := by
  have bits : bitsOf (unit width) = List.replicate width false ++ [true] := by
    apply List.ext_getElem
    · simp [length_bitsOf]
    intro index inside other
    rw [getElem_bitsOf, unit, BitVec.getLsbD_twoPow]
    rw [length_bitsOf] at inside
    by_cases last : index = width
    · subst last
      simp
    · have before : index < width := Nat.lt_of_le_of_ne (Nat.le_of_lt_succ inside) last
      rw [List.getElem_append_left (by simpa using before)]
      simp [Ne.symm last]
  rw [ofRegister, bits, ofBits_append, ofBits_replicate_false]
  simp [ofBits]

/-- None of the next registers is `start`. -/
def avoids (taps start : BitVec width) : Nat → BitVec width → Bool
  | 0, _ => true
  | count + 1, register =>
      let next := shift taps register
      next != start && avoids taps start count next

theorem avoids_sound {taps start register : BitVec width} {limit count : Nat}
    (checked : avoids taps start limit register = true) (below : count < limit) :
    shifts taps (count + 1) register ≠ start := by
  induction limit generalizing register count with
  | zero => cases below
  | succ limit ih =>
      rw [avoids, Bool.and_eq_true, bne_iff_ne] at checked
      cases count with
      | zero => exact checked.1
      | succ count =>
          have later : shifts taps (count + 1) (shift taps register) ≠ start :=
            ih checked.2 (Nat.lt_of_succ_lt_succ below)
          exact later

theorem avoids_mono {taps start register : BitVec width} {fewer more : Nat} (bound : fewer ≤ more)
    (checked : avoids taps start more register = true) :
    avoids taps start fewer register = true := by
  induction fewer generalizing register more with
  | zero => rfl
  | succ fewer ih =>
      cases more with
      | zero => cases bound
      | succ more =>
          rw [avoids, Bool.and_eq_true] at checked ⊢
          exact ⟨checked.1, ih (Nat.le_of_succ_le_succ bound) checked.2⟩

/-- Two errors are detected as long as the powers of `X` between them do not return to 1. -/
theorem distance_ne_two (constant : taps.getLsbD width = true)
    (aperiodic : avoids taps (unit width) first.length (unit width) = true)
    (lengths : first.length = second.length)
    (same : feed taps register first = feed taps register second) :
    distance first second ≠ 2 := by
  intro two
  have divides := generator_dvd_add constant lengths same
  rw [← ofBits_zipWith lengths] at divides
  obtain ⟨before, later, errors, one⟩ := count_true_split two
  obtain ⟨between, after, rest, none⟩ := count_true_split one
  have trailing := count_true_zero none
  have total : before + (1 + (between + (1 + after.length))) = first.length := by
    have counted := congrArg List.length errors
    rw [List.length_zipWith, lengths, Nat.min_self, rest] at counted
    simp at counted
    omega
  have product : ofBits (List.zipWith xor first second) =
      (X ^ (between + 1) + 1) * X ^ after.length := by
    rw [errors, ofBits_append, ofBits_replicate_false, zero_mul, zero_add, ofBits, rest,
      ofBits_append, ofBits_replicate_false, ofBits, trailing, ofBits_replicate_false]
    simp only [if_true, List.length_append, List.length_cons, List.length_replicate]
    ring
  rw [product] at divides
  have unity := ((coprime_generator constant).pow_right).dvd_of_dvd_mul_right divides
  have returned : shifts taps (between + 1) (unit width) = unit width := by
    apply ofRegister_injective
    have small : (ofRegister (unit width)).degree < (generator taps).degree := by
      rw [degree_generator]
      exact degree_ofRegister _
    rw [ofRegister_shifts]
    refine Eq.trans (modByMonic_eq_of_dvd_sub (monic_generator taps) ?_)
      ((modByMonic_eq_self_iff (monic_generator taps)).mpr small)
    rw [ofRegister_unit, mul_one, CharTwo.sub_eq_add]
    exact unity
  exact avoids_sound aperiodic (by omega) returned

theorem eq_of_distance_zero (lengths : first.length = second.length)
    (none : distance first second = 0) : first = second := by
  apply ofBits_injective lengths
  have zero := ofBits_replicate_false (List.zipWith xor first second).length
  rw [← count_true_zero none, ofBits_zipWith lengths] at zero
  calc ofBits first = ofBits first + (ofBits second + ofBits second) := by
        rw [add_self_zero, add_zero]
    _ = ofBits second := by rw [← add_assoc, zero, zero_add]

/-- Different messages that leave the same register differ in four places at least. -/
theorem four_le_distance (constant : taps.getLsbD width = true)
    (terms : (bitsOf taps).count true % 2 = 1)
    (aperiodic : avoids taps (unit width) first.length (unit width) = true)
    (lengths : first.length = second.length) (different : first ≠ second)
    (same : feed taps register first = feed taps register second) :
    4 ≤ distance first second := by
  have even := even_distance constant terms lengths same
  have some : distance first second ≠ 0 := fun none => different (eq_of_distance_zero lengths none)
  have more := distance_ne_two constant aperiodic lengths same
  omega

end Detection

end ZhuoduControl.Library.Crc
