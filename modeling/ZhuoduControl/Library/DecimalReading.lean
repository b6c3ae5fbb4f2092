import Mathlib.Algebra.Order.Ring.Unbundled.Rat
import Mathlib.Data.List.TakeWhile
import ZhuoduControl.Library.DecimalText

/-! Complete decimal numerals: what the conversions of `sscanf` make of them, and that the
conversions of `snprintf` write them. -/

set_option autoImplicit false

namespace ZhuoduControl.Library.DecimalText

/-- Digits with at most one point, and their value. -/
inductive Magnitude : List Char → Rat → Prop
  | whole {digits : List Char} (allDigits : ∀ c ∈ digits, isDigit c = true)
      (some_digit : digits ≠ []) : Magnitude digits (mkRat (digitsValue digits) 1)
  | pointed {whole fraction : List Char} (allDigits : ∀ c ∈ whole ++ fraction, isDigit c = true)
      (some_digit : whole ++ fraction ≠ []) :
      Magnitude (whole ++ '.' :: fraction)
        (mkRat (digitsValue (whole ++ fraction)) (scale fraction))

def readMagnitude (text : List Char) : Option Rat :=
  let whole := text.takeWhile isDigit
  let rest := text.dropWhile isDigit
  let fraction := rest.tail
  if (rest = [] ∨ rest.head? = some '.') ∧ fraction.all isDigit = true ∧
      whole ++ fraction ≠ [] then
    some (mkRat (digitsValue (whole ++ fraction)) (scale fraction))
  else none

/-- The value of a complete text: an optional `-`, digits, and at most one point. -/
def readDecimal : List Char → Option Rat
  | '-' :: rest => (readMagnitude rest).map fun value : Rat => -value
  | text => readMagnitude text

/-- A sign may be of either kind. -/
def readSigned : List Char → Option Rat
  | '+' :: rest => readMagnitude rest
  | text => readDecimal text

theorem readMagnitude_eq_some_iff {text : List Char} {value : Rat} :
    readMagnitude text = some value ↔ Magnitude text value := by
  constructor
  · intro read
    have parts := List.takeWhile_append_dropWhile (p := isDigit) (l := text)
    have digits : ∀ c ∈ text.takeWhile isDigit, isDigit c = true :=
      fun c member => List.mem_takeWhile_imp member
    unfold readMagnitude at read
    simp only [Option.ite_none_right_eq_some, Option.some.injEq] at read
    obtain ⟨⟨empty | pointed, fraction, some_digit⟩, rfl⟩ := read
    · rw [empty, List.append_nil] at parts
      rw [empty, List.tail_nil, List.append_nil] at some_digit ⊢
      have number := Magnitude.whole digits some_digit
      rw [parts] at number
      rw [parts]
      exact number
    · obtain ⟨tail, shape⟩ := List.head?_eq_some_iff.mp pointed
      rw [shape, List.tail_cons] at fraction some_digit ⊢
      rw [shape] at parts
      have number := Magnitude.pointed (fun c member => (List.mem_append.mp member).elim
        (digits c) (List.all_eq_true.mp fraction c)) some_digit
      rw [parts] at number
      exact number
  · intro number
    have point : isDigit '.' = false := rfl
    cases number with
    | whole allDigits some_digit =>
        have taken : text.takeWhile isDigit = text := List.takeWhile_eq_self_iff.mpr allDigits
        have dropped : text.dropWhile isDigit = [] := List.dropWhile_eq_nil_iff.mpr allDigits
        unfold readMagnitude
        simp [taken, dropped, some_digit, scale]
    | @pointed whole fraction allDigits some_digit =>
        have first : ∀ c ∈ whole, isDigit c = true :=
          fun c member => allDigits c (List.mem_append_left _ member)
        have last : ∀ c ∈ fraction, isDigit c = true :=
          fun c member => allDigits c (List.mem_append_right _ member)
        have taken : (whole ++ '.' :: fraction).takeWhile isDigit = whole := by
          rw [List.takeWhile_append_of_pos first, List.takeWhile_cons, point]
          exact List.append_nil whole
        have dropped : (whole ++ '.' :: fraction).dropWhile isDigit = '.' :: fraction := by
          rw [List.dropWhile_append_of_pos first, List.dropWhile_cons, point]
          rfl
        unfold readMagnitude
        rw [taken, dropped]
        exact if_pos ⟨.inr rfl, List.all_eq_true.mpr last, some_digit⟩

/-- The first character of a number without its sign. -/
theorem Magnitude.head {text : List Char} {value : Rat} (number : Magnitude text value) :
    ∃ c rest, text = c :: rest ∧ (isDigit c = true ∨ c = '.') := by
  cases number with
  | whole allDigits some_digit =>
      obtain ⟨c, rest, rfl⟩ := List.exists_cons_of_ne_nil some_digit
      exact ⟨c, rest, rfl, .inl (allDigits c (.head _))⟩
  | @pointed whole fraction allDigits _ =>
      cases whole with
      | nil => exact ⟨'.', fraction, rfl, .inr rfl⟩
      | cons c rest => exact ⟨c, _, rfl, .inl (allDigits c (.head _))⟩

theorem Magnitude.take {text : List Char} {value : Rat} (number : Magnitude text value)
    {count : Nat} (enough : 2 ≤ count) : ∃ shorter, Magnitude (text.take count) shorter := by
  have prefix_digits : ∀ {digits : List Char}, (∀ c ∈ digits, isDigit c = true) →
      ∀ count, ∀ c ∈ digits.take count, isDigit c = true :=
    fun allDigits _ c member => allDigits c (List.mem_of_mem_take member)
  cases number with
  | whole allDigits some_digit =>
      refine ⟨_, .whole (prefix_digits allDigits count) ?_⟩
      rw [Ne, List.take_eq_nil_iff]
      exact not_or.mpr ⟨by omega, some_digit⟩
  | @pointed whole fraction allDigits some_digit =>
      have first : ∀ c ∈ whole, isDigit c = true :=
        fun c member => allDigits c (List.mem_append_left _ member)
      have last : ∀ c ∈ fraction, isDigit c = true :=
        fun c member => allDigits c (List.mem_append_right _ member)
      rw [List.take_append]
      obtain inside | ⟨behind, split⟩ : count ≤ whole.length ∨
          ∃ behind, count - whole.length = behind + 1 := by
        rcases Nat.lt_or_ge whole.length count with past | inside
        · exact .inr (Nat.exists_eq_add_one.mpr (Nat.sub_pos_of_lt past))
        · exact .inl inside
      · rw [Nat.sub_eq_zero_of_le inside, List.take_zero, List.append_nil]
        refine ⟨_, .whole (prefix_digits first count) ?_⟩
        rw [Ne, List.take_eq_nil_iff]
        refine not_or.mpr ⟨by omega, ?_⟩
        rintro rfl
        rw [List.length_nil] at inside
        omega
      · rw [split, List.take_succ_cons, List.take_of_length_le (by omega)]
        refine ⟨_, .pointed (fun c member => (List.mem_append.mp member).elim (first c)
          (prefix_digits last behind c)) ?_⟩
        intro none
        obtain ⟨empty, short⟩ := List.append_eq_nil_iff.mp none
        rw [List.take_eq_nil_iff] at short
        rcases short with zero | nothing
        · rw [empty, List.length_nil] at split
          omega
        · exact some_digit (List.append_eq_nil_iff.mpr ⟨empty, nothing⟩)

theorem isDigit_toNat_le {c : Char} (digit : isDigit c = true) : c.toNat ≤ 57 := by
  rw [isDigit, Bool.and_eq_true, decide_eq_true_eq, decide_eq_true_eq] at digit
  exact digit.2

theorem toLower_of_le {c : Char} (below : c.toNat ≤ 57) : c.toLower = c := by
  unfold Char.toLower
  rw [dif_neg]
  rintro ⟨lower, _⟩
  have above : 65 ≤ c.toNat := lower
  omega

/-- A number does not start with the words for the numbers that are not finite. -/
theorem Magnitude.no_word {text : List Char} {value : Rat} (number : Magnitude text value)
    {word : List Char} (letter : 57 < (word.headD 'a').toNat) :
    (text.take 3).map Char.toLower ≠ word := by
  obtain ⟨c, rest, rfl, digit⟩ := number.head
  have below : c.toNat ≤ 57 := by
    rcases digit with digit | rfl
    · exact isDigit_toNat_le digit
    · decide
  rintro rfl
  rw [List.take_succ_cons, List.map_cons, List.headD_cons, toLower_of_le below] at letter
  omega

/-- What the conversions of `sscanf` assign for a complete number. -/
theorem scanMagnitude_of_read {text : List Char} {value : Rat}
    (read : readMagnitude text = some value) (negative : Bool) :
    scanMagnitude negative text = some (.finite (if negative then -value else value)) := by
  have number := readMagnitude_eq_some_iff.mp read
  have noNan : (text.take 3).map Char.toLower ≠ ['n', 'a', 'n'] := number.no_word (by decide)
  have noInf : (text.take 3).map Char.toLower ≠ ['i', 'n', 'f'] := number.no_word (by decide)
  have signed : ∀ (magnitude scale : Nat),
      mkRat (if negative then -(magnitude : Int) else magnitude) scale =
        if negative then -mkRat magnitude scale else mkRat magnitude scale := by
    intro magnitude scale
    cases negative with
    | false => rfl
    | true => exact (Rat.neg_mkRat _ _).symm
  have point : isDigit '.' = false := rfl
  unfold scanMagnitude
  simp only [noNan, noInf, if_false]
  cases number with
  | whole allDigits some_digit =>
      have taken : text.takeWhile isDigit = text := List.takeWhile_eq_self_iff.mpr allDigits
      rw [taken, List.drop_length, List.append_nil, if_neg (fun both => some_digit both.1), signed]
      rfl
  | @pointed whole fraction allDigits some_digit =>
      have first : ∀ c ∈ whole, isDigit c = true :=
        fun c member => allDigits c (List.mem_append_left _ member)
      have last : fraction.takeWhile isDigit = fraction := List.takeWhile_eq_self_iff.mpr
        fun c member => allDigits c (List.mem_append_right _ member)
      have taken : (whole ++ '.' :: fraction).takeWhile isDigit = whole := by
        rw [List.takeWhile_append_of_pos first, List.takeWhile_cons, point]
        exact List.append_nil whole
      rw [taken, List.drop_left]
      simp only [last]
      rw [if_neg (fun both => some_digit (List.append_eq_nil_iff.mpr both)), signed]

theorem isDigit_toNat_ge {c : Char} (digit : isDigit c = true) : 48 ≤ c.toNat := by
  rw [isDigit, Bool.and_eq_true, decide_eq_true_eq, decide_eq_true_eq] at digit
  exact digit.1

/-- A number starts with a digit, a point or a `-`. -/
inductive Decimal : List Char → Rat → Prop
  | positive {text : List Char} {value : Rat} (number : Magnitude text value) : Decimal text value
  | negative {text : List Char} {value : Rat} (number : Magnitude text value) :
      Decimal ('-' :: text) (-value)

theorem Magnitude.head_ge {c : Char} {rest : List Char} {value : Rat}
    (number : Magnitude (c :: rest) value) : 46 ≤ c.toNat := by
  obtain ⟨first, tail, same, digit⟩ := number.head
  obtain ⟨rfl, rfl⟩ := List.cons.inj same
  rcases digit with digit | rfl
  · exact Nat.le_trans (by decide) (isDigit_toNat_ge digit)
  · decide

theorem readDecimal_eq_some_iff {text : List Char} {value : Rat} :
    readDecimal text = some value ↔ Decimal text value := by
  constructor
  · intro read
    unfold readDecimal at read
    split at read
    · obtain ⟨magnitude, inner, rfl⟩ := Option.map_eq_some_iff.mp read
      exact .negative (readMagnitude_eq_some_iff.mp inner)
    · exact .positive (readMagnitude_eq_some_iff.mp read)
  · intro decimal
    cases decimal with
    | positive number =>
        unfold readDecimal
        split
        · exact absurd number.head_ge (by decide)
        · exact readMagnitude_eq_some_iff.mpr number
    | negative number =>
        rw [readDecimal, readMagnitude_eq_some_iff.mpr number]
        rfl

theorem Decimal.head {text : List Char} {value : Rat} (decimal : Decimal text value) :
    ∃ c rest, text = c :: rest ∧ 45 ≤ c.toNat := by
  cases decimal with
  | positive number =>
      obtain ⟨c, rest, rfl, _⟩ := number.head
      exact ⟨c, rest, rfl, Nat.le_trans (by decide) number.head_ge⟩
  | negative _ => exact ⟨'-', _, rfl, Nat.le_refl 45⟩

theorem Decimal.scan {field : List Char} {value : Rat} (decimal : Decimal field value) :
    (match field with
      | '-' :: rest => scanMagnitude true rest
      | '+' :: rest => scanMagnitude false rest
      | digits => scanMagnitude false digits) = some (.finite value) := by
  cases decimal with
  | positive number =>
      split
      · exact absurd number.head_ge (by decide)
      · exact absurd number.head_ge (by decide)
      · exact scanMagnitude_of_read (readMagnitude_eq_some_iff.mpr number) false
  | negative number =>
      exact scanMagnitude_of_read (readMagnitude_eq_some_iff.mpr number) true

/-- A field of `width` characters that is a number is read as this number. -/
theorem scanReal_of_read {width : Nat} {text : List Char} {value : Rat}
    (read : readDecimal (text.take width) = some value) :
    scanReal width text = some (.finite value) := by
  have decimal := readDecimal_eq_some_iff.mp read
  obtain ⟨c, rest, shape, printable⟩ := decimal.head
  have unspaced : text.dropWhile isSpace = text := by
    cases text with
    | nil =>
        rw [List.take_nil] at shape
        cases shape
    | cons first tail =>
        have same : first = c := by
          cases width with
          | zero => cases shape
          | succ width =>
              rw [List.take_succ_cons] at shape
              exact (List.cons.inj shape).1
        have visible : isSpace first = false := by
          rw [same, isSpace, Bool.or_eq_false_iff]
          refine ⟨decide_eq_false ?_, ?_⟩
          · rintro rfl
            exact absurd printable (by decide)
          · rw [Bool.and_eq_false_iff]
            exact .inr (decide_eq_false (by omega))
        rw [List.dropWhile_cons, visible]
        rfl
  rw [scanReal, unspaced]
  exact decimal.scan

theorem scanReal_of_readSigned {text : List Char} {value : Rat}
    (read : readSigned text = some value) :
    scanReal text.length text = some (.finite value) := by
  unfold readSigned at read
  split at read
  · next rest =>
      have whole : (('+' :: rest).dropWhile isSpace).take ('+' :: rest).length = '+' :: rest :=
        List.take_of_length_le (Nat.le_refl _)
      rw [scanReal, whole]
      exact scanMagnitude_of_read read false
  · refine scanReal_of_read ?_
    rw [List.take_length]
    exact read

theorem readDecimal_take {text : List Char} {value : Rat} (read : readDecimal text = some value)
    {width : Nat} (enough : 3 ≤ width) :
    ∃ shorter, readDecimal (text.take width) = some shorter := by
  cases readDecimal_eq_some_iff.mp read with
  | positive number =>
      obtain ⟨shorter, taken⟩ := number.take (Nat.le_trans (by decide) enough)
      exact ⟨shorter, readDecimal_eq_some_iff.mpr (.positive taken)⟩
  | @negative rest magnitude number =>
      obtain ⟨width, rfl⟩ := Nat.exists_eq_add_of_le' (Nat.le_trans (by decide : 1 ≤ 3) enough)
      obtain ⟨shorter, taken⟩ := number.take (Nat.le_of_succ_le_succ enough)
      exact ⟨-shorter, readDecimal_eq_some_iff.mpr (.negative taken)⟩

section Format

theorem isDigit_of_mem_toDigits {value : Nat} {c : Char} (member : c ∈ Nat.toDigits 10 value) :
    isDigit c = true := by
  have digit := Nat.isDigit_of_mem_toDigits (by decide) (by decide) member
  rw [Char.isDigit, Bool.and_eq_true, decide_eq_true_eq, decide_eq_true_eq] at digit
  rw [isDigit, Bool.and_eq_true, decide_eq_true_eq, decide_eq_true_eq]
  exact digit

theorem digitsValue_toDigits (value : Nat) : digitsValue (Nat.toDigits 10 value) = value :=
  Nat.ofDigitChars_ten_toDigits

theorem digitsValue_append (front back : List Char) :
    digitsValue (front ++ back) = 10 ^ back.length * digitsValue front + digitsValue back := by
  have whole : digitsValue (front ++ back) =
      Nat.ofDigitChars 10 back (Nat.ofDigitChars 10 front 0) := Nat.ofDigitChars_append 0
  rw [whole, Nat.ofDigitChars_eq_ofDigitChars_zero]
  rfl

theorem digitsValue_zeros (count : Nat) : digitsValue (List.replicate count '0') = 0 :=
  Nat.ofDigitChars_replicate_zero.trans (Nat.mul_zero _)

/-- What `zeroPadded` puts behind the sign. -/
def padding (width : Nat) (negative : Bool) (digits : List Char) : List Char :=
  List.replicate (width - (signText negative).length - digits.length) '0'

theorem zeroPadded_eq (width : Nat) (negative : Bool) (digits : List Char) :
    zeroPadded width negative digits =
      signText negative ++ (padding width negative digits ++ digits) :=
  List.append_assoc _ _ _

theorem isDigit_of_mem_padding {width : Nat} {negative : Bool} {digits : List Char} {c : Char}
    (member : c ∈ padding width negative digits) : isDigit c = true := by
  rw [List.eq_of_mem_replicate member]
  rfl

theorem zeroPadded_length (width : Nat) (negative : Bool) (digits : List Char) :
    (zeroPadded width negative digits).length =
      max width ((signText negative).length + digits.length) := by
  rw [zeroPadded_eq, List.length_append, List.length_append, padding, List.length_replicate]
  omega

theorem decimal_signed {text : List Char} {value : Rat} (number : Magnitude text value)
    (negative : Bool) : Decimal (signText negative ++ text) (if negative then -value else value) := by
  cases negative with
  | false => exact .positive number
  | true => exact .negative number

theorem formatInt_decimal (width : Nat) (value : Int) : Decimal (formatInt width value) value := by
  have digits : ∀ c ∈ padding width (decide (value < 0)) (Nat.toDigits 10 value.natAbs) ++
      Nat.toDigits 10 value.natAbs, isDigit c = true := fun c member =>
    (List.mem_append.mp member).elim isDigit_of_mem_padding isDigit_of_mem_toDigits
  have number := Magnitude.whole digits (by simp)
  rw [digitsValue_append, padding, digitsValue_zeros, Nat.mul_zero, Nat.zero_add,
    digitsValue_toDigits, Rat.mkRat_one] at number
  have signed := decimal_signed number (decide (value < 0))
  have magnitude : (if decide (value < 0) = true then -((value.natAbs : Int) : Rat)
      else ((value.natAbs : Int) : Rat)) = value := by
    by_cases below : value < 0
    · rw [if_pos (decide_eq_true below), Int.ofNat_natAbs_of_nonpos (Int.le_of_lt below),
        Rat.intCast_neg, Rat.neg_neg]
    · rw [if_neg (by simpa using below), Int.natAbs_of_nonneg (Int.not_lt.mp below)]
  rw [magnitude] at signed
  rw [formatInt, zeroPadded_eq]
  exact signed

theorem le_of_mkRat_le {dividend divisor bound : Nat} (positive : 0 < divisor)
    (below : mkRat dividend divisor ≤ bound) : dividend ≤ bound * divisor := by
  have whole : ((bound : Int) : Rat) = Rat.divInt bound 1 := Rat.intCast_eq_divInt bound
  rw [Rat.mkRat_eq_divInt, ← Rat.intCast_natCast, whole,
    Rat.divInt_le_divInt (by omega) (by decide)] at below
  omega

/-- The tenths that `%.1f` prints. -/
def tenths (dividend divisor : Nat) : Nat := Binary32.roundHalfEven (10 * dividend) divisor

theorem tenths_le {dividend divisor bound : Nat} (positive : 0 < divisor)
    (below : mkRat dividend divisor ≤ bound) : tenths dividend divisor ≤ 10 * bound := by
  refine Binary32.roundHalfEven_le positive ?_
  rw [Nat.mul_assoc]
  exact Nat.mul_le_mul_left 10 (le_of_mkRat_le positive below)

theorem formatTenths_decimal (width : Nat) (negative : Bool) (dividend divisor : Nat) :
    Decimal (formatTenths width negative dividend divisor)
      (if negative then -mkRat (tenths dividend divisor) 10
        else mkRat (tenths dividend divisor) 10) := by
  let whole := Nat.toDigits 10 (tenths dividend divisor / 10)
  have single : ∃ c, Nat.toDigits 10 (tenths dividend divisor % 10) = [c] :=
    ⟨_, Nat.toDigits_of_lt_base (Nat.mod_lt _ (by decide))⟩
  obtain ⟨c, last⟩ := single
  have shape : ∀ front : List Char, front ++ (whole ++ '.' :: [c]) = (front ++ whole) ++ '.' :: [c] :=
    fun front => (List.append_assoc front whole _).symm
  have digits : ∀ other ∈ (padding width negative (whole ++ '.' :: [c]) ++ whole) ++ [c],
      isDigit other = true := by
    intro other member
    rcases List.mem_append.mp member with inFront | inLast
    · exact (List.mem_append.mp inFront).elim isDigit_of_mem_padding isDigit_of_mem_toDigits
    · rw [← last] at inLast
      exact isDigit_of_mem_toDigits inLast
  have number := Magnitude.pointed digits (by simp)
  have value : digitsValue ((padding width negative (whole ++ '.' :: [c]) ++ whole) ++ [c]) =
      tenths dividend divisor := by
    rw [digitsValue_append, digitsValue_append, padding, digitsValue_zeros, ← last,
      digitsValue_toDigits, digitsValue_toDigits, last, Nat.mul_zero, Nat.zero_add]
    exact Nat.div_add_mod _ _
  have ten : scale [c] = 10 := rfl
  rw [value, ten] at number
  have signed := decimal_signed number negative
  rw [← shape, ← zeroPadded_eq, ← last] at signed
  exact signed

theorem formatFixed_length (places width : Nat) (negative : Bool) (dividend divisor : Nat) :
    places + 2 ≤ (formatFixed places width negative dividend divisor).length := by
  have whole : ∀ value, 0 < (Nat.toDigits 10 value).length := fun value =>
    List.length_pos_iff.mpr Nat.toDigits_ne_nil
  have digits := whole (Binary32.roundHalfEven (10 ^ places * dividend) divisor / 10 ^ places)
  unfold formatFixed
  rw [zeroPadded_length, List.length_append, List.length_cons, zeroPadded_length]
  omega

theorem formatTenths_length {width : Nat} {negative : Bool} {dividend divisor places : Nat}
    (some_place : 0 < places) (below : tenths dividend divisor / 10 < 10 ^ places)
    (fits : (signText negative).length + places + 2 = width) :
    (formatTenths width negative dividend divisor).length = width := by
  have whole := (Nat.length_toDigits_le_iff (by decide) some_place).mpr below
  have last : (Nat.toDigits 10 (tenths dividend divisor % 10)).length = 1 := by
    rw [Nat.toDigits_of_lt_base (Nat.mod_lt _ (by decide))]
    rfl
  have unfolded : formatTenths width negative dividend divisor = zeroPadded width negative
      (Nat.toDigits 10 (tenths dividend divisor / 10) ++
        '.' :: Nat.toDigits 10 (tenths dividend divisor % 10)) := rfl
  rw [unfolded, zeroPadded_length, List.length_append, List.length_cons, last]
  omega

end Format

end ZhuoduControl.Library.DecimalText
