import ZhuoduControl.Library.DecimalReading

/-! The first characters of a printed number, and the number they are read as. -/

set_option autoImplicit false

namespace ZhuoduControl.Library.DecimalText

section Digits

variable {digits : List Char}

theorem digitsValue_lt (allDigits : ∀ c ∈ digits, isDigit c = true) :
    digitsValue digits < 10 ^ digits.length := by
  induction digits with
  | nil => exact Nat.one_pos
  | cons c rest ih =>
      have below := ih fun other member => allDigits other (.tail _ member)
      have digit := isDigit_toNat_le (allDigits c (.head _))
      have shape : digitsValue (c :: rest) = 10 ^ rest.length * digitsValue [c] + digitsValue rest :=
        digitsValue_append [c] rest
      have single : digitsValue [c] = c.toNat - 48 := by
        unfold digitsValue
        simp
      have small : 10 ^ rest.length * digitsValue [c] ≤ 10 ^ rest.length * 9 := by
        refine Nat.mul_le_mul_left _ ?_
        omega
      rw [shape, List.length_cons, Nat.pow_succ]
      omega

theorem digitsValue_take (allDigits : ∀ c ∈ digits, isDigit c = true) (count : Nat) :
    digitsValue (digits.take count) = digitsValue digits / 10 ^ (digits.length - count) := by
  have parts := digitsValue_append (digits.take count) (digits.drop count)
  have rest : digitsValue (digits.drop count) < 10 ^ (digits.drop count).length := digitsValue_lt
    fun c member => allDigits c (List.mem_of_mem_drop member)
  rw [List.take_append_drop] at parts
  rw [List.length_drop] at parts rest
  rw [parts, Nat.mul_add_div (Nat.pow_pos (by decide)), Nat.div_eq_of_lt rest, Nat.add_zero]

theorem scale_eq (digits : List Char) : scale digits = 10 ^ digits.length := by
  have counted : ∀ start, digits.foldl (fun scale _ => 10 * scale) start =
      10 ^ digits.length * start := by
    induction digits with
    | nil => intro start; simp
    | cons c rest ih =>
        intro start
        rw [List.foldl_cons, ih, List.length_cons, Nat.pow_succ, Nat.mul_assoc]
  rw [scale, counted, Nat.mul_one]

end Digits

section Integers

variable {width : Nat}

theorem formatInt_take_fits {value : Int}
    (fits : (signText (decide (value < 0))).length + (Nat.toDigits 10 value.natAbs).length ≤ width) :
    Decimal ((formatInt width value).take width) value := by
  have length : (formatInt width value).length ≤ width := by
    rw [formatInt, zeroPadded_length]
    exact Nat.max_le.mpr ⟨Nat.le_refl width, fits⟩
  rw [List.take_of_length_le length]
  exact formatInt_decimal width value

theorem formatInt_take_cut (value : Nat) (some_place : 0 < width) (long : 10 ^ width ≤ value) :
    ∃ cut : Nat, Decimal ((formatInt width value).take width) (cut : Rat) ∧
      0 < cut ∧ cut < 10 ^ width := by
  have digits : ∀ c ∈ Nat.toDigits 10 value, isDigit c = true := fun _ => isDigit_of_mem_toDigits
  have more : width < (Nat.toDigits 10 value).length := by
    refine Nat.lt_of_not_le fun short => ?_
    have below := (Nat.length_toDigits_le_iff (by decide) some_place).mp short
    omega
  have unpadded : formatInt width value = Nat.toDigits 10 value := by
    rw [formatInt, zeroPadded_eq, padding]
    have positive : decide ((value : Int) < 0) = false := decide_eq_false (by omega)
    rw [positive, Int.natAbs_natCast, signText, if_neg Bool.false_ne_true, List.nil_append,
      List.length_nil, Nat.sub_zero, Nat.sub_eq_zero_of_le (Nat.le_of_lt more)]
    rfl
  have length : ((Nat.toDigits 10 value).take width).length = width := by
    rw [List.length_take]
    exact Nat.min_eq_left (Nat.le_of_lt more)
  have cut := digitsValue_take digits width
  rw [digitsValue_toDigits] at cut
  refine ⟨value / 10 ^ ((Nat.toDigits 10 value).length - width), ?_, ?_, ?_⟩
  · have number := Magnitude.whole (fun c member => digits c (List.mem_of_mem_take member))
      (List.ne_nil_of_length_pos (length.symm ▸ some_place))
    rw [cut, Rat.mkRat_one, Rat.intCast_natCast] at number
    rw [unpadded]
    exact .positive number
  · refine Nat.div_pos ?_ (Nat.pow_pos (by decide))
    refine Nat.le_of_not_lt fun less => ?_
    have short := (Nat.length_toDigits_le_iff (by decide : 1 < 10)
      (by omega : 0 < (Nat.toDigits 10 value).length - width)).mpr less
    omega
  · rw [← cut]
    have below : digitsValue ((Nat.toDigits 10 value).take width) < 10 ^ _ :=
      digitsValue_lt fun c member => digits c (List.mem_of_mem_take member)
    rwa [length] at below

end Integers

theorem mkRat_le {dividend divisor bound : Nat} (positive : 0 < divisor)
    (below : dividend ≤ bound * divisor) : mkRat dividend divisor ≤ bound := by
  have whole : ((bound : Int) : Rat) = Rat.divInt bound 1 := Rat.intCast_eq_divInt bound
  rw [Rat.mkRat_eq_divInt, ← Rat.intCast_natCast, whole,
    Rat.divInt_le_divInt (by omega) (by decide)]
  omega

section Fractions

/-- The places behind the point that are left of the first `count` characters. -/
def keptPlaces (negative : Bool) (whole count : Nat) : Nat :=
  count - ((signText negative).length + (Nat.toDigits 10 whole).length) - 1

/-- A number of units of the last of `places` places, cut to `count` characters. -/
def cutValue (places count : Nat) (negative : Bool) (scaled : Nat) : Rat :=
  let kept := keptPlaces negative (scaled / 10 ^ places) count
  let magnitude := mkRat (scaled / 10 ^ (places - kept) : Nat) (10 ^ kept)
  if negative then -magnitude else magnitude

/-- The digits of a printed number without its point. -/
theorem fixed_digits {places : Nat} (scaled : Nat) (some_place : 0 < places) :
    let front := Nat.toDigits 10 (scaled / 10 ^ places)
    let back := zeroPadded places false (Nat.toDigits 10 (scaled % 10 ^ places))
    (∀ c ∈ front ++ back, isDigit c = true) ∧ back.length = places ∧
      digitsValue (front ++ back) = scaled := by
  intro front back
  have shape : back = padding places false (Nat.toDigits 10 (scaled % 10 ^ places)) ++
      Nat.toDigits 10 (scaled % 10 ^ places) := zeroPadded_eq _ _ _
  have length : back.length = places := by
    have short : (Nat.toDigits 10 (scaled % 10 ^ places)).length ≤ places :=
      (Nat.length_toDigits_le_iff (by decide) some_place).mpr
        (Nat.mod_lt _ (Nat.pow_pos (by decide)))
    have padded : back.length = max places (0 + (Nat.toDigits 10 (scaled % 10 ^ places)).length) :=
      zeroPadded_length _ _ _
    omega
  refine ⟨?_, length, ?_⟩
  · intro c member
    rcases List.mem_append.mp member with inFront | inBack
    · exact isDigit_of_mem_toDigits inFront
    · rw [shape] at inBack
      exact (List.mem_append.mp inBack).elim isDigit_of_mem_padding isDigit_of_mem_toDigits
  · have value : digitsValue back = scaled % 10 ^ places := by
      rw [shape, digitsValue_append, padding, digitsValue_zeros, digitsValue_toDigits,
        Nat.mul_zero, Nat.zero_add]
    rw [digitsValue_append, length, value, digitsValue_toDigits]
    exact Nat.div_add_mod _ _

theorem formatFixed_take {places width count : Nat} (negative : Bool) (dividend divisor : Nat)
    (some_place : 0 < places) (unpadded : width ≤ places + 2) (cuts : count ≤ places + 2)
    (whole : (signText negative).length + (Nat.toDigits 10
      (Binary32.roundHalfEven (10 ^ places * dividend) divisor / 10 ^ places)).length ≤ count) :
    Decimal ((formatFixed places width negative dividend divisor).take count)
      (cutValue places count negative (Binary32.roundHalfEven (10 ^ places * dividend) divisor)) := by
  unfold cutValue keptPlaces formatFixed
  dsimp only
  generalize Binary32.roundHalfEven (10 ^ places * dividend) divisor = scaled at whole ⊢
  obtain ⟨allDigits, length, value⟩ := fixed_digits scaled some_place
  have nonempty : 0 < (Nat.toDigits 10 (scaled / 10 ^ places)).length :=
    List.length_pos_iff.mpr Nat.toDigits_ne_nil
  generalize Nat.toDigits 10 (scaled / 10 ^ places) = front at *
  generalize zeroPadded places false (Nat.toDigits 10 (scaled % 10 ^ places)) = back at *
  have unsigned : zeroPadded width negative (front ++ '.' :: back) =
      signText negative ++ (front ++ '.' :: back) := by
    have none : width - (signText negative).length - (front ++ '.' :: back).length = 0 := by
      rw [List.length_append, List.length_cons, length]
      omega
    rw [zeroPadded_eq, padding, none]
    rfl
  rw [unsigned, List.take_append, List.take_of_length_le (by omega), List.take_append,
    List.take_of_length_le (by omega : front.length ≤ count - (signText negative).length)]
  refine decimal_signed ?_ negative
  rw [← Nat.sub_sub]
  rcases Nat.eq_zero_or_eq_succ_pred (count - (signText negative).length - front.length) with
    last | behind
  · have number := Magnitude.whole (fun c member => allDigits c (List.mem_append_left _ member))
      (List.ne_nil_of_length_pos nonempty)
    have cut := digitsValue_take allDigits front.length
    rw [List.take_left, value, List.length_append, length, Nat.add_sub_cancel_left] at cut
    rw [last, List.take_zero, List.append_nil, Nat.zero_sub, Nat.sub_zero, Nat.pow_zero, ← cut]
    exact number
  · generalize (count - (signText negative).length - front.length).pred = kept at behind
    have inside : kept ≤ places := by omega
    have cut := digitsValue_take allDigits (front.length + kept)
    rw [List.take_length_add_append, value, List.length_append, length,
      Nat.add_sub_add_left] at cut
    have number : Magnitude (front ++ '.' :: back.take kept) _ := .pointed
      (fun c member => allDigits c ((List.mem_append.mp member).elim
        (List.mem_append_left _) fun later => List.mem_append_right _ (List.mem_of_mem_take later)))
      (List.append_ne_nil_of_left_ne_nil (List.ne_nil_of_length_pos nonempty) _)
    rw [cut, scale_eq, List.length_take, length, Nat.min_eq_left inside] at number
    rw [behind, Nat.succ_eq_add_one, List.take_succ_cons, Nat.add_sub_cancel]
    exact number

end Fractions

end ZhuoduControl.Library.DecimalText
