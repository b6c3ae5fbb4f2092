import ZhuoduControl.Library.BinaryNearest
import ZhuoduControl.Library.DecimalPrefix
import ZhuoduControl.Menu.FocusRules
import ZhuoduControl.System.NumberValue

/-! The texts that an editor begins with, and what is read of them if nobody changes them. -/

set_option autoImplicit false

namespace ZhuoduControl.System

open ZhuoduControl.Library
open ZhuoduControl.Library.DecimalText
open ZhuoduControl.Data
open ZhuoduControl.Menu.Edit
open ZhuoduControl.Menu.Box
open ZhuoduControl.Menu.BoxPages (shownBits)
open ZhuoduControl.Menu.Frame

section Characters

theorem Decimal.ascii {text : List Char} {value : Rat} (decimal : Decimal text value) :
    ∀ c ∈ text, c.toNat < 256 := by
  have number {text : List Char} {value : Rat} (magnitude : Magnitude text value) :
      ∀ c ∈ text, c.toNat < 256 := by
    have digit {c : Char} (isDigit : isDigit c = true) : c.toNat < 256 :=
      Nat.lt_of_le_of_lt (isDigit_toNat_le isDigit) (by decide)
    intro c member
    cases magnitude with
    | whole allDigits => exact digit (allDigits c member)
    | pointed allDigits =>
        rcases List.mem_append.mp member with front | back
        · exact digit (allDigits c (List.mem_append_left _ front))
        · rcases List.mem_cons.mp back with rfl | fraction
          · decide
          · exact digit (allDigits c (List.mem_append_right _ fraction))
  intro c member
  cases decimal with
  | positive magnitude => exact number magnitude c member
  | negative magnitude =>
      rcases List.mem_cons.mp member with rfl | rest
      · decide
      · exact number magnitude c rest

theorem bytesChars_charBytes {text : List Char} (ascii : ∀ c ∈ text, c.toNat < 256) :
    bytesChars (charBytes text) = text := by
  rw [bytesChars, charBytes, List.map_map]
  refine (List.map_congr_left fun c member => ?_).trans (List.map_id text)
  have byte : (BitVec.ofNat 8 c.toNat).toNat = c.toNat := by
    rw [BitVec.toNat_ofNat, Nat.mod_eq_of_lt (ascii c member)]
  rw [Function.comp_apply, byte, Char.ofNat_toNat]
  rfl

theorem readSigned_of_decimal {text : List Char} {value : Rat} (decimal : Decimal text value) :
    readSigned text = some value := by
  unfold readSigned
  split
  · cases decimal with
    | positive number => exact absurd number.head_ge (by decide)
  · exact readDecimal_eq_some_iff.mpr decimal

theorem bytesChars_taken {text : List Char} {value : Rat} {count : Nat}
    (decimal : Decimal (text.take count) value) :
    bytesChars ((charBytes text).take count) = text.take count := by
  have taken : (charBytes text).take count = charBytes (text.take count) := List.map_take.symm
  rw [taken, bytesChars_charBytes (Decimal.ascii decimal)]

end Characters

/-- An unedited save reads the value back: a whole number of tenths, or an integer that has
no more digits than the text has places. -/
def ReadsBack (args : SetIntFloat) : Prop :=
  match args.setData with
  | .float bits =>
      ∃ count : Int, count.natAbs ≤ 1000000 ∧ bits = Binary32.ofRat (mkRat count 10)
  | setData => setData.toInt32 < 10 ^ args.dataType.scanned

section Editor

variable {args : SetIntFloat} {uninit : Number}

theorem checkNumber_of_decimal {value : Rat}
    (decimal : Decimal ((bytesChars args.text).take args.dataType.scanned) value)
    (lower : args.min ≤ value) (upper : value ≤ args.max) :
    checkNumber args uninit (bytesChars args.text) = .ok (.finite value) := by
  have scanned : scanReal args.dataType.scanned (bytesChars args.text) = some (.finite value) :=
    scanReal_of_read (readDecimal_eq_some_iff.mpr decimal)
  have inside : ¬ ((Number.finite args.max).lt (.finite value) = true ∨
      (Number.finite value).lt (.finite args.min) = true) := by
    rw [finite_of_lt.1.mpr upper, finite_of_lt.2.mpr lower]
    simp
  unfold checkNumber
  rw [scanned]
  exact if_neg inside

/-- The integer that the text of an integer shows, which is a smaller one if it is cut. -/
theorem integral_shown {number : Int} (integral : args.dataType.integral = true)
    (data : args.setData.toInt32 = number) (above : -10 ^ (args.dataType.scanned - 1) < number) :
    ∃ shown : Int, Decimal ((bytesChars args.text).take args.dataType.scanned) (shown : Rat) ∧
      (number < 10 ^ args.dataType.scanned → shown = number) ∧
        (10 ^ args.dataType.scanned ≤ number →
          0 < shown ∧ shown < 10 ^ args.dataType.scanned) := by
  have places := scanned_ge args.dataType
  obtain ⟨text, _⟩ := text_integral integral
  rw [SetData.formatInt, data] at text
  have read {value : Rat}
      (decimal : Decimal ((formatInt args.dataType.scanned number).take args.dataType.scanned) value) :
      Decimal ((bytesChars args.text).take args.dataType.scanned) value := by
    rw [text, bytesChars_charBytes (Decimal.ascii decimal), List.take_take, Nat.min_self]
    exact decimal
  have some_place : 0 < args.dataType.scanned := Nat.lt_of_lt_of_le (by decide) places
  rcases lt_or_ge number (10 ^ args.dataType.scanned) with short | long
  · refine ⟨number, read (formatInt_take_fits ?_), fun _ => rfl, fun long => ?_⟩
    · rcases lt_or_ge number 0 with negative | positive
      · have digits : (Nat.toDigits 10 number.natAbs).length ≤ args.dataType.scanned - 1 := by
          refine (Nat.length_toDigits_le_iff (by decide) (by omega)).mpr ?_
          have power : ((10 ^ (args.dataType.scanned - 1) : Nat) : Int) =
              10 ^ (args.dataType.scanned - 1) := Int.natCast_pow _ _
          omega
        rw [decide_eq_true negative]
        show 1 + _ ≤ _
        omega
      · have digits : (Nat.toDigits 10 number.natAbs).length ≤ args.dataType.scanned := by
          refine (Nat.length_toDigits_le_iff (by decide) some_place).mpr ?_
          have power : ((10 ^ args.dataType.scanned : Nat) : Int) = 10 ^ args.dataType.scanned :=
            Int.natCast_pow _ _
          omega
        rw [decide_eq_false (Int.not_lt.mpr positive)]
        show 0 + _ ≤ _
        omega
    · omega
  · have power : ((10 ^ args.dataType.scanned : Nat) : Int) = 10 ^ args.dataType.scanned :=
      Int.natCast_pow _ _
    have zero : (0 : Int) ≤ 10 ^ args.dataType.scanned := Int.pow_nonneg (by decide)
    obtain ⟨value, rfl⟩ := Int.eq_ofNat_of_zero_le (Int.le_trans zero long)
    obtain ⟨cut, decimal, positive, below⟩ :=
      formatInt_take_cut value some_place (by omega)
    refine ⟨cut, ?_, fun short => ?_, fun _ => ?_⟩
    · rw [Rat.intCast_natCast]
      exact read decimal
    · omega
    · omega

theorem integral_unedited (uninit : Number) {number : Int} (integral : args.dataType.integral = true)
    (data : args.setData = .integer number) (fits : int32Min ≤ number ∧ number ≤ int32Max)
    (above : -10 ^ (args.dataType.scanned - 1) < number) (lower : args.min ≤ (number : Rat))
    (upper : (number : Rat) ≤ args.max) (one : 10 ^ args.dataType.scanned ≤ number → args.min ≤ 1) :
    ∃ shown : Int, checkNumber args uninit (bytesChars args.text) = .ok (.finite (shown : Rat)) ∧
      args.min ≤ (shown : Rat) ∧ (shown : Rat) ≤ args.max ∧ (shown = number ↔ ReadsBack args) := by
  have whole : args.setData.toInt32 = number := by
    rw [data]
    show max int32Min (min int32Max number) = number
    omega
  have back : ReadsBack args ↔ number < 10 ^ args.dataType.scanned := by
    unfold ReadsBack
    rw [data]
    dsimp only
    rw [← data, whole]
  obtain ⟨shown, decimal, short, long⟩ := integral_shown integral whole above
  rcases lt_or_ge number (10 ^ args.dataType.scanned) with fitting | cut
  · obtain rfl := short fitting
    exact ⟨shown, checkNumber_of_decimal decimal lower upper, lower, upper,
      iff_of_true rfl (back.mpr fitting)⟩
  · obtain ⟨positive, below⟩ := long cut
    have least : args.min ≤ (shown : Rat) := by
      refine Rat.le_trans (one cut) ?_
      exact_mod_cast positive
    have most : (shown : Rat) ≤ args.max := by
      refine Rat.le_trans ?_ upper
      have less : shown ≤ number := by omega
      exact_mod_cast less
    refine ⟨shown, checkNumber_of_decimal decimal least most, least, most, iff_of_false ?_ ?_⟩
    · omega
    · rw [back]
      omega

theorem signed_natAbs (number : Int) :
    Binary32.signed (decide (number < 0)) number.natAbs = number := by
  unfold Binary32.signed
  split
  · next negative =>
      have below := of_decide_eq_true negative
      omega
  · next positive =>
      have above : ¬ number < 0 := by simpa using positive
      omega

theorem mkRat_signed (negative : Bool) (magnitude divisor : Nat) :
    mkRat (Binary32.signed negative magnitude) divisor =
      if negative then -mkRat magnitude divisor else mkRat magnitude divisor := by
  cases negative with
  | false => rfl
  | true => exact (Rat.neg_mkRat _ _).symm

theorem float_text {bits : U32} {negative : Bool} {magnitude : Nat}
    (type : args.dataType = .float32) (data : args.setData = .float bits)
    (decoded : Binary32.decode bits = .finite negative magnitude) (length : args.text.length = 8) :
    args.text = charBytes (formatTenths 8 negative magnitude (2 ^ 149)) := by
  have printed : args.text =
      cString 17 (charBytes (formatTenths 8 negative magnitude (2 ^ 149))) := by
    unfold SetIntFloat.text
    rw [type, data]
    simp only [DataType.print, SetData.formatReal, decoded]
  rw [printed, (formatTenths_onWheel 8 negative magnitude _).cString] at length ⊢
  refine List.take_of_length_le ?_
  rw [List.length_take] at length
  omega

/-- The tenths of a number between whole bounds are between them too. -/
theorem tenths_between {negative : Bool} {magnitude low high : Nat}
    (lower : -(low : Rat) ≤ mkRat (Binary32.signed negative magnitude) (2 ^ 149))
    (upper : mkRat (Binary32.signed negative magnitude) (2 ^ 149) ≤ (high : Rat)) :
    -(low : Rat) ≤ mkRat (Binary32.signed negative (tenths magnitude (2 ^ 149))) 10 ∧
      mkRat (Binary32.signed negative (tenths magnitude (2 ^ 149))) 10 ≤ (high : Rat) ∧
        tenths magnitude (2 ^ 149) ≤ 10 * max low high := by
  have bounded {bound : Nat} (most : mkRat magnitude (2 ^ 149) ≤ (bound : Rat)) :
      mkRat (tenths magnitude (2 ^ 149)) 10 ≤ (bound : Rat) ∧
        tenths magnitude (2 ^ 149) ≤ 10 * bound := by
    have count := tenths_le (Nat.two_pow_pos 149) most
    exact ⟨mkRat_le (by decide) (by omega), count⟩
  have zero (count : Nat) : (0 : Rat) ≤ mkRat count 10 := Rat.mkRat_nonneg (by omega) 10
  have positive (count : Nat) : (0 : Rat) ≤ (count : Rat) := by exact_mod_cast Nat.zero_le count
  rw [mkRat_signed] at lower upper ⊢
  cases negative with
  | false =>
      simp only [Bool.false_eq_true, if_false] at upper ⊢
      obtain ⟨most, count⟩ := bounded upper
      refine ⟨Rat.le_trans ?_ (zero _), most, by omega⟩
      exact Rat.neg_le_neg (positive low)
  | true =>
      simp only [if_true] at lower ⊢
      obtain ⟨most, count⟩ := bounded (Rat.neg_le_neg_iff.mp lower)
      refine ⟨Rat.neg_le_neg most, Rat.le_trans ?_ (positive high), by omega⟩
      exact Rat.neg_le_neg (zero _)

theorem natAbs_signed (negative : Bool) (magnitude : Nat) :
    (Binary32.signed negative magnitude).natAbs = magnitude := by
  cases negative with
  | false => exact Int.natAbs_natCast _
  | true => exact (Int.natAbs_neg _).trans (Int.natAbs_natCast _)

theorem float_unedited (uninit : Number) {bits : U32} (type : args.dataType = .float32)
    (data : args.setData = .float bits) (inRange : args.InRange) {low high : Nat}
    (lower : args.min = -(low : Rat)) (upper : args.max = (high : Rat))
    (wide : low ≤ 10000 ∧ high ≤ 100000) :
    ∃ count : Int, checkNumber args uninit (bytesChars args.text) =
        .ok (.finite (mkRat count 10)) ∧
      (Binary32.ofRat (mkRat count 10) = bits ↔ ReadsBack args) := by
  have length : args.text.length = 8 := by
    refine text_float_length type inRange ?_ ?_
    · rw [lower]
      exact Rat.neg_le_neg (by exact_mod_cast wide.1)
    · rw [upper]
      exact_mod_cast wide.2
  obtain ⟨value, finite, above, below⟩ := inRange
  obtain ⟨negative, magnitude, decoded⟩ :
      ∃ negative magnitude, Binary32.decode bits = .finite negative magnitude := by
    rw [data] at finite
    cases decoded : Binary32.decode bits with
    | finite negative magnitude => exact ⟨negative, magnitude, rfl⟩
    | infinite negative =>
        simp only [SetData.number, decoded] at finite
        cases finite
    | nan =>
        simp only [SetData.number, decoded] at finite
        cases finite
  have number : value = mkRat (Binary32.signed negative magnitude) (2 ^ 149) := by
    rw [data] at finite
    simp only [SetData.number, decoded, Number.finite.injEq] at finite
    exact finite.symm
  have whole := float_text type data decoded length
  have decimal := formatTenths_decimal 8 negative magnitude (2 ^ 149)
  have read : (bytesChars args.text).take args.dataType.scanned =
      formatTenths 8 negative magnitude (2 ^ 149) := by
    rw [whole, bytesChars_charBytes (Decimal.ascii decimal), type]
    refine List.take_of_length_le ?_
    rw [whole, charBytes, List.length_map] at length
    exact Nat.le_of_eq length
  rw [← mkRat_signed] at decimal
  rw [number, lower] at above
  rw [number, upper] at below
  obtain ⟨least, most, count⟩ := tenths_between above below
  have small : tenths magnitude (2 ^ 149) ≤ 1000000 := by omega
  refine ⟨Binary32.signed negative (tenths magnitude (2 ^ 149)),
    checkNumber_of_decimal (read.symm ▸ decimal) (lower ▸ least) (upper ▸ most), ?_⟩
  unfold ReadsBack
  rw [data]
  dsimp only
  constructor
  · intro same
    refine ⟨_, ?_, same.symm⟩
    rw [natAbs_signed]
    exact small
  · rintro ⟨count, few, rfl⟩
    obtain ⟨nearest, pattern, near⟩ :=
      Binary32.decode_ofRat count (by decide : 0 < 10) (by omega)
    cases decoded.symm.trans pattern
    have back : tenths magnitude (2 ^ 149) = count.natAbs :=
      Binary32.tenths_of_near (by omega) near
    rw [back, signed_natAbs]

end Editor

/-- The number that the first characters of the edited text show. -/
def cutNumber (box : NumberBox) : Rat :=
  match Binary32.decode box.setFloat with
  | .finite negative magnitude =>
      cutValue 6 box.boxWidth negative
        (Binary32.roundHalfEven (10 ^ 6 * magnitude) (2 ^ 149))
  | _ => 0

/-- The number that the edited text shows before a key has changed it. -/
def readNumber (box : NumberBox) : Rat :=
  match box.dataType with
  | .integer => box.setInteger.toInt
  | .float => cutNumber box

/-- What a save makes of a number. -/
def takenBits (clib : Clib) (box : NumberBox) (value : Rat) : U32 :=
  match box.dataType with
  | .integer => clib.toUint32 value
  | .float => Binary32.ofRat value

/-- An unedited save reads the number of the box back: the text shows it, or shows a number
that is not strictly between the bounds. A negative integer only comes back if its conversion
to `uint32_t` wraps. -/
def BoxReadsBack (clib : Clib) (box : NumberBox) : Prop :=
  box.min < readNumber box → readNumber box < box.max →
    takenBits clib box (readNumber box) = shownBits box

/-- The box is as its page set it up, but for its place. -/
structure SetUp (config : BoxConfig) (box : NumberBox) : Prop where
  boxWidth : box.boxWidth = config.boxWidth
  dataWidth : box.dataWidth = config.dataWidth
  dataType : box.dataType = config.dataType
  min : box.min = config.min
  max : box.max = config.max

/-- The number of the box is in its range. -/
def Within (box : NumberBox) : Prop :=
  ∃ value, box.number = .finite value ∧ box.min ≤ value ∧ value ≤ box.max

theorem Within.finite {box : NumberBox} (within : Within box) (type : box.dataType = .float) :
    ∃ negative magnitude, Binary32.decode box.setFloat = .finite negative magnitude := by
  obtain ⟨value, number, _⟩ := within
  exact NumberBox.decode_of_number number type

theorem pageBoxes_texts : ∀ config ∈ pageBoxes,
    5 ≤ config.boxWidth ∧ config.boxWidth ≤ 8 ∧ config.dataWidth ≤ 8 ∧
      (config.dataType = .integer → config.dataWidth = config.boxWidth) := by
  decide +kernel

section Box

variable {clib : Clib} {uninit : Number} {box : NumberBox} {config : BoxConfig}

theorem editText_float (setUp : SetUp config box) (known : config ∈ pageBoxes)
    (type : box.dataType = .float) (within : Within box) :
    Decimal (box.editText.take box.boxWidth) (cutNumber box) := by
  obtain ⟨negative, magnitude, decoded⟩ := within.finite type
  obtain ⟨wide, short, padded, _⟩ := pageBoxes_texts _ known
  obtain ⟨low, high⟩ := pageBoxes_bounds _ known
  have shown : box.editText = formatFixed 6 box.dataWidth negative magnitude (2 ^ 149) := by
    unfold NumberBox.editText formatFloat
    rw [type]
    simp only [decoded]
  have cut : cutNumber box = cutValue 6 box.boxWidth negative
      (Binary32.roundHalfEven (10 ^ 6 * magnitude) (2 ^ 149)) := by
    unfold cutNumber
    rw [decoded]
  rw [shown, cut]
  refine formatFixed_take negative magnitude _ (by decide) ?_ ?_ ?_
  · rw [setUp.dataWidth]
    exact padded
  · rw [setUp.boxWidth]
    exact short
  · have digits {bound places : Nat} (some_place : 0 < places) (less : bound < 10 ^ places)
        (most : mkRat magnitude (2 ^ 149) ≤ (bound : Rat)) :
        (Nat.toDigits 10 (Binary32.roundHalfEven (10 ^ 6 * magnitude) (2 ^ 149) / 10 ^ 6)).length ≤
          places := by
      have scaled : Binary32.roundHalfEven (10 ^ 6 * magnitude) (2 ^ 149) ≤ 10 ^ 6 * bound := by
        refine Binary32.roundHalfEven_le (Nat.two_pow_pos 149) ?_
        rw [Nat.mul_assoc]
        exact Nat.mul_le_mul_left _ (le_of_mkRat_le (Nat.two_pow_pos 149) most)
      refine (Nat.length_toDigits_le_iff (by decide) some_place).mpr (Nat.lt_of_le_of_lt ?_ less)
      exact Nat.div_le_of_le_mul scaled
    obtain ⟨value, number, lower, upper⟩ := within
    rw [NumberBox.number, type] at number
    simp only [SetData.number, decoded, Number.finite.injEq] at number
    rw [setUp.min] at lower
    rw [setUp.max] at upper
    rw [setUp.boxWidth]
    rw [← number, mkRat_signed] at lower upper
    cases negative with
    | false =>
        simp only [Bool.false_eq_true, if_false] at upper
        have most : mkRat magnitude (2 ^ 149) ≤ ((65535 : Nat) : Rat) :=
          Rat.le_trans upper high
        have few := digits (by decide : 0 < 5) (by decide) most
        show 0 + _ ≤ _
        omega
    | true =>
        simp only [if_true] at lower
        have most : mkRat magnitude (2 ^ 149) ≤ ((100 : Nat) : Rat) :=
          Rat.neg_le_neg_iff.mp (Rat.le_trans low lower)
        have few := digits (by decide : 0 < 3) (by decide) most
        show 1 + _ ≤ _
        omega

theorem editText_integer (setUp : SetUp config box) (known : config ∈ pageBoxes)
    (type : box.dataType = .integer) (within : Within box) :
    Decimal (box.editText.take box.boxWidth) (box.setInteger.toInt : Rat) := by
  obtain ⟨wide, short, _, same⟩ := pageBoxes_texts _ known
  obtain ⟨low, high⟩ := pageBoxes_bounds _ known
  obtain ⟨value, number, lower, upper⟩ := within
  have width : box.dataWidth = box.boxWidth := by
    rw [setUp.dataWidth, setUp.boxWidth]
    exact same (setUp.dataType.symm.trans type)
  have integer : (box.setInteger.toInt : Rat) = value := by
    rw [NumberBox.number, type] at number
    exact Number.finite.inj number
  have above : -100 ≤ box.setInteger.toInt := by
    have bound : ((-100 : Int) : Rat) ≤ box.setInteger.toInt := by
      rw [integer]
      exact Rat.le_trans low (setUp.min ▸ lower)
    exact_mod_cast bound
  have below : box.setInteger.toInt ≤ 65535 := by
    have bound : (box.setInteger.toInt : Rat) ≤ ((65535 : Int) : Rat) := by
      rw [integer]
      exact Rat.le_trans (setUp.max ▸ upper) high
    exact_mod_cast bound
  have shown : box.editText = formatInt box.boxWidth box.setInteger.toInt := by
    unfold NumberBox.editText
    rw [type, width]
  rw [shown]
  refine formatInt_take_fits ?_
  have digits {places : Nat} (some_place : 0 < places)
      (less : box.setInteger.toInt.natAbs < 10 ^ places) :
      (Nat.toDigits 10 box.setInteger.toInt.natAbs).length ≤ places :=
    (Nat.length_toDigits_le_iff (by decide) some_place).mpr less
  rw [setUp.boxWidth]
  rcases lt_or_ge box.setInteger.toInt 0 with negative | positive
  · have few := digits (by decide : 0 < 3) (by omega)
    rw [decide_eq_true negative]
    show 1 + _ ≤ _
    omega
  · have few := digits (by decide : 0 < 5) (by omega)
    rw [decide_eq_false (Int.not_lt.mpr positive)]
    show 0 + _ ≤ _
    omega

/-- The text of the box shows the number, and there is nothing else to be read. -/
def Shows (box : NumberBox) (value : Rat) : Prop := Decimal (bytesChars box.text) value

theorem opened_shows {value : Rat} (setUp : SetUp config box) (known : config ∈ pageBoxes)
    (finite : box.dataType = .float →
      ∃ negative magnitude, Binary32.decode box.setFloat = .finite negative magnitude)
    (decimal : Decimal (box.editText.take box.boxWidth) value) :
    Shows { box.display.print box.editText with boxStat := .modifing } value := by
  obtain ⟨wide, short, _, _⟩ := pageBoxes_texts _ known
  have text : NumberBox.text { box.display.print box.editText with boxStat := .modifing } =
      (charBytes box.editText).take box.boxWidth := by
    refine Eq.trans (load_printTo _ _ ?_) ((editText_signed finite).onWheel.cString _)
    rw [show box.display.boxWidth = config.boxWidth from setUp.boxWidth]
    omega
  unfold Shows
  rw [text, bytesChars_taken decimal]
  exact decimal

theorem editText_shown (setUp : SetUp config box) (known : config ∈ pageBoxes)
    (within : Within box) : Decimal (box.editText.take box.boxWidth) (readNumber box) := by
  unfold readNumber
  cases type : box.dataType with
  | integer => exact editText_integer setUp known type within
  | float => exact editText_float setUp known type within

/-- A save of a text that shows a number takes the number, if it is between the bounds. -/
theorem save_shown {value : Rat} (sound : clib.Sound) (shows : Shows box value) :
    shownBits (box.save clib uninit) = shownBits box ↔
      (box.min < value → value < box.max → takenBits clib box value = shownBits box) := by
  have scanned : (clib.sscanf box.text).getD uninit = .finite value := by
    rw [sound.reads _ _ (readSigned_of_decimal shows)]
    rfl
  unfold NumberBox.save
  rw [scanned]
  dsimp only
  split
  · next inside =>
      have inBounds : (box.min < value → value < box.max → takenBits clib box value =
          shownBits box) ↔ takenBits clib box value = shownBits box :=
        ⟨fun same => same inside.2 inside.1, fun same _ _ => same⟩
      rw [inBounds, takenBits]
      cases type : box.dataType with
      | integer => simp [shownBits, type]
      | float => simp [shownBits, type]
  · next outside =>
      exact iff_of_true rfl fun lower upper => absurd ⟨upper, lower⟩ outside

end Box

end ZhuoduControl.System
