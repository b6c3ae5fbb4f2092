import ZhuoduControl.Library.DecimalReading
import ZhuoduControl.Menu.EditSessions

/-! The text of a `set_int_float_min_max` session: what it starts from, and what the keys
make of it. -/

set_option autoImplicit false

namespace ZhuoduControl.Menu.Edit

open ZhuoduControl.Library
open ZhuoduControl.Data
open ZhuoduControl.Menu.Frame

/-- Digits, a `-` on the first place and the point of a `float`. -/
def onWheel (first flagDotDisp : Bool) (byte : U8) : Bool :=
  (decide (0x30 ≤ byte.toNat) && decide (byte.toNat ≤ 0x39)) || (first && byte == 0x2D) ||
    (flagDotDisp && byte == 0x2E)

/-- Every byte of the text is on the wheel of its place. -/
def OnWheel (flagDotDisp : Bool) (text : List U8) : Prop :=
  ∀ index byte, text[index]? = some byte → onWheel (decide (index = 0)) flagDotDisp byte = true

section Wheel

variable {first flagDotDisp : Bool} {byte : U8}

theorem onWheel_charUp (wheel : onWheel first flagDotDisp byte = true) :
    onWheel first flagDotDisp (charUp first flagDotDisp byte) = true := by
  cases first <;> cases flagDotDisp <;> revert byte <;> decide +kernel

theorem onWheel_charDown (wheel : onWheel first flagDotDisp byte = true) :
    onWheel first flagDotDisp (charDown first flagDotDisp byte) = true := by
  cases first <;> cases flagDotDisp <;> revert byte <;> decide +kernel

theorem charDown_charUp (wheel : onWheel first flagDotDisp byte = true) :
    charDown first flagDotDisp (charUp first flagDotDisp byte) = byte := by
  cases first <;> cases flagDotDisp <;> revert byte <;> decide +kernel

theorem onWheel_ne_zero (wheel : onWheel first flagDotDisp byte = true) :
    (byte != 0) = true := by
  cases first <;> cases flagDotDisp <;> revert byte <;> decide +kernel

end Wheel

section Bytes

theorem takeWhile_set {text : List U8} {index : Nat} {byte : U8} (printed : (byte != 0) = true)
    (inside : index < (text.takeWhile fun other => other != 0).length) :
    (text.set index byte).takeWhile (fun other => other != 0) =
      (text.takeWhile fun other => other != 0).set index byte := by
  induction text generalizing index with
  | nil => cases inside
  | cons head rest ih =>
      rw [List.takeWhile_cons] at inside ⊢
      split at inside
      · next kept =>
          rw [if_pos kept]
          cases index with
          | zero => rw [List.set_cons_zero, List.takeWhile_cons, if_pos printed, List.set_cons_zero]
          | succ index =>
              rw [List.set_cons_succ, List.takeWhile_cons, if_pos kept, List.set_cons_succ,
                ih (Nat.lt_of_succ_lt_succ inside)]
      · cases inside

theorem load_set {buffer : Memory U8} {index capacity : Nat} {byte : U8}
    (printed : (byte != 0) = true)
    (inside : index < ((buffer.load 0 capacity).takeWhile fun other => other != 0).length) :
    ((buffer.set index byte).load 0 capacity).takeWhile (fun other => other != 0) =
      ((buffer.load 0 capacity).takeWhile fun other => other != 0).set index byte := by
  have loaded : (buffer.set index byte).load 0 capacity =
      (buffer.load 0 capacity).set index byte := by
    refine List.ext_getElem (by simp) ?_
    intro place here there
    rw [Memory.load_getElem, List.getElem_set, Memory.load_getElem, Nat.zero_add]
    by_cases same : index = place
    · rw [if_pos same, same, Memory.set_same]
    · rw [if_neg same, Memory.set_other _ _ (Ne.symm same)]
  rw [loaded]
  exact takeWhile_set printed inside

theorem load_getElem_takeWhile {buffer : Memory U8} {index capacity : Nat}
    (inside : index < ((buffer.load 0 capacity).takeWhile fun other => other != 0).length) :
    ((buffer.load 0 capacity).takeWhile fun other => other != 0)[index] = buffer index := by
  have initial : ((buffer.load 0 capacity).takeWhile fun other => other != 0) <+:
      buffer.load 0 capacity := List.takeWhile_prefix _
  rw [initial.getElem inside, Memory.load_getElem, Nat.zero_add]

theorem setText_set {buffer : Memory U8} {index : Nat} {byte : U8}
    (printed : (byte != 0) = true) (inside : index < (setText buffer).length) :
    setText (buffer.set index byte) = (setText buffer).set index byte :=
  load_set printed inside

theorem setText_getElem {buffer : Memory U8} {index : Nat}
    (inside : index < (setText buffer).length) : (setText buffer)[index] = buffer index :=
  load_getElem_takeWhile inside

end Bytes

section Fresh

/-- A digit, or the point of a `float`. -/
def Figure (flagDotDisp : Bool) (c : Char) : Prop :=
  DecimalText.isDigit c = true ∨ (flagDotDisp = true ∧ c = '.')

theorem Figure.onWheel {flagDotDisp : Bool} {c : Char} (figure : Figure flagDotDisp c)
    (first : Bool) : onWheel first flagDotDisp (BitVec.ofNat 8 c.toNat) = true := by
  rcases figure with digit | ⟨rfl, rfl⟩
  · have lower := DecimalText.isDigit_toNat_ge digit
    have upper := DecimalText.isDigit_toNat_le digit
    have value : (BitVec.ofNat 8 c.toNat).toNat = c.toNat := by
      rw [BitVec.toNat_ofNat, Nat.mod_eq_of_lt (Nat.lt_of_le_of_lt upper (by decide))]
    rw [Edit.onWheel, value, decide_eq_true lower, decide_eq_true upper]
    rfl
  · cases first <;> rfl

/-- A text with a `-` on its first place only if it is negative. -/
def Signed (negative flagDotDisp : Bool) (text : List U8) : Prop :=
  ∀ index byte, text[index]? = some byte →
    onWheel (decide (index = 0) && negative) flagDotDisp byte = true

theorem Signed.onWheel {negative flagDotDisp : Bool} {text : List U8}
    (signed : Signed negative flagDotDisp text) : OnWheel flagDotDisp text := by
  intro index byte found
  have wheel := signed index byte found
  cases negative with
  | true => rwa [Bool.and_true] at wheel
  | false =>
      rw [Bool.and_false] at wheel
      unfold Edit.onWheel at wheel ⊢
      rw [Bool.false_and, Bool.or_false] at wheel
      rw [Bool.or_right_comm, wheel, Bool.true_or]

theorem signed_text {flagDotDisp : Bool} (negative : Bool) {body : List Char}
    (figures : ∀ c ∈ body, Figure flagDotDisp c) :
    Signed negative flagDotDisp (charBytes (DecimalText.signText negative ++ body)) := by
  intro index byte found
  rw [charBytes, List.getElem?_map, Option.map_eq_some_iff] at found
  obtain ⟨c, placed, rfl⟩ := found
  cases negative with
  | false => exact (figures c (List.mem_of_getElem? placed)).onWheel _
  | true =>
      cases index with
      | zero =>
          cases Option.some.inj placed
          cases flagDotDisp <;> rfl
      | succ index => exact (figures c (List.mem_of_getElem? placed)).onWheel _

theorem OnWheel.take {flagDotDisp : Bool} {text : List U8} (wheel : OnWheel flagDotDisp text)
    (count : Nat) : OnWheel flagDotDisp (text.take count) := by
  intro index byte found
  refine wheel index byte ?_
  rw [List.getElem?_take] at found
  split at found
  · exact found
  · cases found

theorem Signed.take {negative flagDotDisp : Bool} {text : List U8}
    (signed : Signed negative flagDotDisp text) (count : Nat) :
    Signed negative flagDotDisp (text.take count) := by
  intro index byte found
  refine signed index byte ?_
  rw [List.getElem?_take] at found
  split at found
  · exact found
  · cases found

theorem Signed.set {negative flagDotDisp : Bool} {text : List U8}
    (signed : Signed negative flagDotDisp text) {place : Nat} {byte : U8}
    (kept : Edit.onWheel (decide (place = 0) && negative) flagDotDisp byte = true) :
    Signed negative flagDotDisp (text.set place byte) := by
  intro index other found
  rw [List.getElem?_set] at found
  split at found
  · next same =>
      split at found
      · cases Option.some.inj found
        exact same ▸ kept
      · cases found
  · exact signed index other found

theorem OnWheel.cString {flagDotDisp : Bool} {text : List U8} (wheel : OnWheel flagDotDisp text)
    (size : Nat) : cString size text = text.take (size - 1) := by
  refine List.takeWhile_eq_self_iff.mpr fun byte member => ?_
  obtain ⟨index, found⟩ := List.getElem?_of_mem member
  exact onWheel_ne_zero (wheel.take _ index byte found)

theorem figure_of_mem_formatInt {width : Nat} {negative : Bool} {value : Nat} {c : Char}
    (member : c ∈ DecimalText.padding width negative (Nat.toDigits 10 value) ++
      Nat.toDigits 10 value) : Figure false c :=
  .inl ((List.mem_append.mp member).elim DecimalText.isDigit_of_mem_padding
    DecimalText.isDigit_of_mem_toDigits)

theorem formatInt_signed (width : Nat) (value : Int) :
    Signed (decide (value < 0)) false (charBytes (DecimalText.formatInt width value)) := by
  rw [DecimalText.formatInt, DecimalText.zeroPadded_eq]
  exact signed_text _ fun _ => figure_of_mem_formatInt

theorem formatFixed_signed (places width : Nat) (negative : Bool) (dividend divisor : Nat) :
    Signed negative true
      (charBytes (DecimalText.formatFixed places width negative dividend divisor)) := by
  unfold DecimalText.formatFixed
  simp only [DecimalText.zeroPadded_eq]
  refine signed_text negative fun c member => ?_
  rcases List.mem_append.mp member with padded | rest
  · exact .inl (DecimalText.isDigit_of_mem_padding padded)
  · rcases List.mem_append.mp rest with whole | pointed
    · exact .inl (DecimalText.isDigit_of_mem_toDigits whole)
    · rcases List.mem_cons.mp pointed with rfl | fraction
      · exact .inr ⟨rfl, rfl⟩
      · rcases List.mem_append.mp fraction with sign | places
        · exact absurd sign List.not_mem_nil
        · exact .inl ((List.mem_append.mp places).elim DecimalText.isDigit_of_mem_padding
            DecimalText.isDigit_of_mem_toDigits)

theorem formatInt_onWheel (width : Nat) (value : Int) :
    OnWheel false (charBytes (DecimalText.formatInt width value)) :=
  (formatInt_signed width value).onWheel

theorem formatTenths_onWheel (width : Nat) (negative : Bool) (dividend divisor : Nat) :
    OnWheel true (charBytes (DecimalText.formatTenths width negative dividend divisor)) := by
  unfold DecimalText.formatTenths
  simp only [DecimalText.zeroPadded_eq]
  refine (signed_text negative fun c member => ?_).onWheel
  rcases List.mem_append.mp member with padded | rest
  · exact .inl (DecimalText.isDigit_of_mem_padding padded)
  · rcases List.mem_append.mp rest with whole | pointed
    · exact .inl (DecimalText.isDigit_of_mem_toDigits whole)
    · rcases List.mem_cons.mp pointed with rfl | fraction
      · exact .inr ⟨rfl, rfl⟩
      · exact .inl (DecimalText.isDigit_of_mem_toDigits fraction)

def SetData.number : SetData → DecimalText.Number
  | .integer value => .finite value
  | .float bits =>
      match Binary32.decode bits with
      | .finite negative magnitude => .finite (mkRat (Binary32.signed negative magnitude) (2 ^ 149))
      | .infinite negative => .infinite negative
      | .nan => .nan
  | .real value => .finite value

/-- The value that is set lies between the bounds of the page. -/
def SetIntFloat.InRange (args : SetIntFloat) : Prop :=
  ∃ value : Rat, args.setData.number = .finite value ∧ args.min ≤ value ∧ value ≤ args.max

/-- The types that the editor prints as integers. -/
def DataType.integral : DataType → Bool
  | .int8 => true
  | .int16 => true
  | .int32 => true
  | _ => false

theorem text_integral {args : SetIntFloat} (integral : args.dataType.integral = true) :
    args.text = charBytes
        ((args.setData.formatInt args.dataType.scanned).take args.dataType.scanned) ∧
      args.text.length = args.dataType.scanned ∧ OnWheel false args.text := by
  have wheel := formatInt_onWheel args.dataType.scanned args.setData.toInt32
  have long : args.dataType.scanned ≤
      (DecimalText.formatInt args.dataType.scanned args.setData.toInt32).length := by
    rw [DecimalText.formatInt, DecimalText.zeroPadded_length]
    exact Nat.le_max_left _ _
  have shape : args.text = cString (args.dataType.scanned + 1)
      (charBytes (DecimalText.formatInt args.dataType.scanned args.setData.toInt32)) := by
    unfold SetIntFloat.text
    cases type : args.dataType with
    | int8 => rfl
    | int16 => rfl
    | int32 => rfl
    | int64 => rw [type] at integral; cases integral
    | float32 => rw [type] at integral; cases integral
    | float64 => rw [type] at integral; cases integral
  rw [shape, wheel.cString]
  refine ⟨(List.map_take).symm, ?_, wheel.take _⟩
  rw [List.length_take, charBytes, List.length_map, Nat.add_sub_cancel]
  exact Nat.min_eq_left long

/-- A finite number is printed by its sign and its tenths. -/
theorem formatReal_finite {setData : SetData} {value : Rat}
    (finite : setData.number = .finite value) :
    ∃ negative dividend divisor, 0 < divisor ∧
      setData.formatReal = DecimalText.formatTenths 8 negative dividend divisor ∧
      value = if negative then -mkRat dividend divisor else mkRat dividend divisor := by
  have magnitude : ∀ (number : Int) (divisor : Nat),
      mkRat number divisor = if decide (number < 0) = true then -mkRat number.natAbs divisor
        else mkRat number.natAbs divisor := by
    intro number divisor
    by_cases below : number < 0
    · rw [if_pos (decide_eq_true below), Int.ofNat_natAbs_of_nonpos (Int.le_of_lt below),
        Rat.neg_mkRat, Int.neg_neg]
    · rw [if_neg (by simpa using below), Int.natAbs_of_nonneg (Int.not_lt.mp below)]
  cases setData with
  | integer number =>
      have same : (number : Rat) = value := DecimalText.Number.finite.inj finite
      refine ⟨_, _, 1, Nat.one_pos, rfl, ?_⟩
      rw [← same, ← magnitude number 1, Rat.mkRat_one]
  | real number =>
      have same : number = value := DecimalText.Number.finite.inj finite
      refine ⟨_, _, number.den, number.den_pos, rfl, ?_⟩
      have sign : decide (number < 0) = decide (number.num < 0) :=
        decide_eq_decide.mpr Rat.num_neg.symm
      rw [← same, sign, ← magnitude number.num number.den, Rat.mkRat_self]
  | float bits =>
      cases decoded : Binary32.decode bits with
      | nan =>
          simp only [SetData.number, decoded] at finite
          cases finite
      | infinite negative =>
          simp only [SetData.number, decoded] at finite
          cases finite
      | finite negative dividend =>
          simp only [SetData.number, decoded, DecimalText.Number.finite.injEq] at finite
          simp only [SetData.formatReal, decoded]
          refine ⟨negative, dividend, 2 ^ 149, Nat.two_pow_pos 149, rfl, ?_⟩
          rw [← finite]
          cases negative with
          | false => rfl
          | true => exact (Rat.neg_mkRat _ _).symm

theorem text_float {args : SetIntFloat} (type : args.dataType = .float32) (inRange : args.InRange) :
    OnWheel true args.text := by
  obtain ⟨value, finite, _⟩ := inRange
  obtain ⟨negative, dividend, divisor, _, shape, _⟩ := formatReal_finite finite
  have wheel := formatTenths_onWheel 8 negative dividend divisor
  have printed : args.text =
      cString 17 (charBytes (DecimalText.formatTenths 8 negative dividend divisor)) := by
    unfold SetIntFloat.text
    rw [type, ← shape]
    rfl
  rw [printed, wheel.cString]
  exact wheel.take _

theorem text_float_length {args : SetIntFloat} (type : args.dataType = .float32)
    (inRange : args.InRange) (lower : -10000 ≤ args.min) (upper : args.max ≤ 100000) :
    args.text.length = 8 := by
  obtain ⟨value, finite, above, below⟩ := inRange
  obtain ⟨negative, dividend, divisor, positive, shape, same⟩ := formatReal_finite finite
  have printed : args.text =
      cString 17 (charBytes (DecimalText.formatTenths 8 negative dividend divisor)) := by
    unfold SetIntFloat.text
    rw [type, ← shape]
    rfl
  have length : (DecimalText.formatTenths 8 negative dividend divisor).length = 8 := by
    cases negative with
    | false =>
        have bound : mkRat dividend divisor ≤ (100000 : Nat) := by
          rw [if_neg Bool.false_ne_true] at same
          exact same ▸ Rat.le_trans below upper
        have tenths := DecimalText.tenths_le positive bound
        exact DecimalText.formatTenths_length (by decide : 0 < 6) (by omega) rfl
    | true =>
        have bound : mkRat dividend divisor ≤ (10000 : Nat) := by
          rw [if_pos rfl] at same
          have magnitude := Rat.neg_le_neg (Rat.le_trans lower above)
          rw [same, Rat.neg_neg, Rat.neg_neg] at magnitude
          exact magnitude
        have tenths := DecimalText.tenths_le positive bound
        exact DecimalText.formatTenths_length (by decide : 0 < 5) (by omega) rfl
  rw [printed, (formatTenths_onWheel 8 negative dividend divisor).cString, List.length_take,
    charBytes, List.length_map, length]
  rfl

end Fresh

/-- A call of `set_int_float_min_max`; `uninit` is what `retVal` holds on entry. -/
structure EditorCall where
  key : KeyCode
  args : SetIntFloat
  uninit : DecimalText.Number

/-- The statics between two calls, and whether the last one has returned `SET_EXIT`. -/
structure EditorSession where
  statics : Statics
  exited : Bool

def SetStat.exits {Value : Type} : SetStat Value → Bool
  | .exit => true
  | _ => false

def EditorCall.result (call : EditorCall) (session : EditorSession) :
    Statics × SetStat DecimalText.Number :=
  setIntFloatMinMax call.key call.args call.uninit session.statics

/-- The page is left on `SET_EXIT`; after any other return it may call again. -/
def editorStep (session : EditorSession) (call : EditorCall) : Option EditorSession :=
  if session.exited then none
  else some ⟨(call.result session).1, (call.result session).2.exits⟩

/-- The statics that the key of a call finds. -/
def EditorCall.opened (call : EditorCall) (session : EditorSession) : Statics :=
  (openNumber call.args session.statics).1

/-- What the page of a menu function passes to the editor. -/
def PageArgs (func : PageFunc) (args : SetIntFloat) : Prop :=
  match pageBody func with
  | .number body => ∃ global, args = body global
  | .current _ own => args = own
  | _ => False

/-- The cursor is inside the text, which has as many places as the save reads. -/
structure TextWellFormed (dataType : DataType) (statics : Statics) : Prop where
  cursor : statics.sCur < (setText statics.sSetBuf).length
  length : (setText statics.sSetBuf).length = dataType.scanned
  wheel : OnWheel (decide (dataType = .float32)) (setText statics.sSetBuf)

/-- The text after a call is well formed, and `KEY_DOWN_DOWN` next to `KEY_DOWN_UP` brings
back the one before. -/
structure EditedWell (before : EditorSession) (call : EditorCall) (after : EditorSession) :
    Prop where
  wellFormed : TextWellFormed call.args.dataType after.statics
  restored : call.key = .downUp → ∀ down : EditorCall, down.key = .downDown →
    setText (down.result after).1.sSetBuf = setText (call.opened before).sSetBuf

/-- The cursor of a `float` steps off the last of its eight characters. -/
def StepsBehind (session : EditorSession) (call : EditorCall) : Prop :=
  call.key = .downOk ∧ call.args.dataType = .float32 ∧
    (call.opened session).number.state = false ∧ (call.opened session).sCur = 7

instance (session : EditorSession) (call : EditorCall) : Decidable (StepsBehind session call) :=
  inferInstanceAs (Decidable (_ ∧ _ ∧ _ ∧ _))

section Edits

variable {dataType : DataType} {statics : Statics}

theorem OnWheel.set {flagDotDisp : Bool} {text : List U8} (wheel : OnWheel flagDotDisp text)
    {place : Nat} {byte : U8} (kept : onWheel (decide (place = 0)) flagDotDisp byte = true) :
    OnWheel flagDotDisp (text.set place byte) := by
  intro index other found
  rw [List.getElem?_set] at found
  split at found
  · next same =>
      split at found
      · cases Option.some.inj found
        exact same ▸ kept
      · cases found
  · exact wheel index other found

theorem TextWellFormed.under (good : TextWellFormed dataType statics) :
    onWheel (decide (statics.sCur = 0)) (decide (dataType = .float32))
      (statics.sSetBuf statics.sCur) = true := by
  refine good.wheel statics.sCur _ ?_
  rw [List.getElem?_eq_getElem good.cursor, setText_getElem good.cursor]

theorem TextWellFormed.setText_edit (good : TextWellFormed dataType statics) {change : U8 → U8}
    (kept : onWheel (decide (statics.sCur = 0)) (decide (dataType = .float32))
      (change (statics.sSetBuf statics.sCur)) = true) :
    setText (statics.edit change).sSetBuf =
      (setText statics.sSetBuf).set statics.sCur (change (statics.sSetBuf statics.sCur)) :=
  setText_set (onWheel_ne_zero kept) good.cursor

theorem TextWellFormed.edit (good : TextWellFormed dataType statics) {change : U8 → U8}
    (kept : onWheel (decide (statics.sCur = 0)) (decide (dataType = .float32))
      (change (statics.sSetBuf statics.sCur)) = true) :
    TextWellFormed dataType (statics.edit change) := by
  have text := good.setText_edit kept
  refine ⟨?_, ?_, ?_⟩
  · rw [text, List.length_set]
    exact good.cursor
  · rw [text, List.length_set]
    exact good.length
  · rw [text]
    exact good.wheel.set kept

theorem TextWellFormed.up_down (good : TextWellFormed dataType statics) :
    let first := decide (statics.sCur = 0)
    let dot := decide (dataType = .float32)
    (statics.edit (charUp first dot)).edit (charDown first dot) = statics := by
  intro first dot
  have back : (statics.sSetBuf.set statics.sCur (charUp first dot (statics.sSetBuf statics.sCur))).set
      statics.sCur (charDown first dot (charUp first dot (statics.sSetBuf statics.sCur))) =
        statics.sSetBuf := by
    rw [charDown_charUp good.under]
    funext place
    by_cases here : place = statics.sCur
    · rw [here, Memory.set_same]
    · rw [Memory.set_other _ _ here, Memory.set_other _ _ here]
  unfold Statics.edit
  dsimp only
  rw [Memory.set_same, back]

end Edits

/-- The types of the pages: an integer of any size, or a `float` between bounds that leave
its text at eight characters. -/
theorem pageArgs_cases {func : PageFunc} {args : SetIntFloat} (own : PageArgs func args) :
    args.dataType.integral = true ∨
      (args.dataType = .float32 ∧ -10000 ≤ args.min ∧ args.max ≤ 100000) := by
  have number : ∀ {body : GlobalDef → SetIntFloat}, pageBody func = .number body →
      ∀ global, (body global).dataType.integral = true ∨ ((body global).dataType = .float32 ∧
        -10000 ≤ (body global).min ∧ (body global).max ≤ 100000) := by
    cases func <;> rintro _ ⟨⟩ global <;> first
      | exact .inl rfl
      | refine .inr ⟨rfl, ?_, ?_⟩ <;> dsimp only <;> decide
  have current : ∀ {page : CurrentPage} {own : SetIntFloat}, pageBody func = .current page own →
      own.dataType.integral = true := by
    cases func <;> rintro _ _ ⟨⟩ <;> rfl
  unfold PageArgs at own
  split at own
  · next body same =>
      obtain ⟨global, rfl⟩ := own
      exact number same global
  · next page fixed same =>
      rw [own]
      exact .inl (current same)
  · cases own

theorem pageArgs_dataType {func : PageFunc} {args other : SetIntFloat} (own : PageArgs func args)
    (same : PageArgs func other) : args.dataType = other.dataType := by
  have number : ∀ {body : GlobalDef → SetIntFloat}, pageBody func = .number body →
      ∀ global others, (body global).dataType = (body others).dataType := by
    cases func <;> rintro _ ⟨⟩ _ _ <;> rfl
  unfold PageArgs at own same
  split at own
  · next body called =>
      rw [called] at same
      obtain ⟨global, rfl⟩ := own
      obtain ⟨others, rfl⟩ := same
      exact number called global others
  · next called =>
      rw [called] at same
      rw [own, same]
  · cases own

theorem pageArgs_text {func : PageFunc} {args : SetIntFloat} (own : PageArgs func args)
    (inRange : args.InRange) :
    args.text.length = args.dataType.scanned ∧
      OnWheel (decide (args.dataType = .float32)) args.text := by
  rcases pageArgs_cases own with integral | ⟨type, lower, upper⟩
  · obtain ⟨_, length, wheel⟩ := text_integral integral
    have noFloat : decide (args.dataType = .float32) = false := by
      refine decide_eq_false fun same => ?_
      rw [same] at integral
      cases integral
    rw [noFloat]
    exact ⟨length, wheel⟩
  · rw [type, decide_eq_true rfl]
    exact ⟨text_float_length type inRange lower upper, text_float type inRange⟩

structure Opened (dataType : DataType) (statics : Statics) : Prop where
  flag1st : statics.number.flag1st = true
  flagDotDisp : statics.number.flagDotDisp = decide (dataType = .float32)
  wellFormed : TextWellFormed dataType statics

/-- A session that is open is one of the type. -/
def SessionGood (dataType : DataType) (session : EditorSession) : Prop :=
  session.statics.number.flag1st = true → Opened dataType session.statics

section Current

variable {dataType : DataType} {statics : Statics}

theorem SessionGood.congr (good : SessionGood dataType ⟨statics, false⟩) {after : Statics}
    (number : after.number = statics.number) (sCur : after.sCur = statics.sCur)
    (sSetBuf : after.sSetBuf = statics.sSetBuf) : SessionGood dataType ⟨after, false⟩ := by
  intro flag
  have opened := good (number ▸ flag)
  refine ⟨flag, number ▸ opened.flagDotDisp, ?_, ?_, ?_⟩
  · rw [sCur, sSetBuf]
    exact opened.wellFormed.cursor
  · rw [sSetBuf]
    exact opened.wellFormed.length
  · rw [sSetBuf]
    exact opened.wellFormed.wheel

theorem SessionGood.withFlagCurrent (good : SessionGood dataType ⟨statics, false⟩)
    (value : Bool) (page : CurrentPage) :
    SessionGood dataType ⟨statics.withFlagCurrent value page, false⟩ := by
  cases page with
  | mA4 => exact good.congr rfl rfl rfl
  | mA20 => exact good.congr rfl rfl rfl

theorem SessionGood.openCurrent (good : SessionGood dataType ⟨statics, false⟩)
    (page : CurrentPage) (own : SetIntFloat) :
    SessionGood dataType ⟨openCurrent page own statics, false⟩ := by
  rw [Edit.openCurrent]
  split
  · exact good
  · exact (good.withFlagCurrent true page).congr rfl rfl rfl

end Current

/-- The arguments begin a session of the type with a text of its width. -/
structure Begins (dataType : DataType) (args : SetIntFloat) : Prop where
  type : args.dataType = dataType
  printed : args.Printed
  length : args.text.length = dataType.scanned
  wheel : OnWheel (decide (dataType = .float32)) args.text

section Calls

variable {dataType : DataType} {session : EditorSession} {call : EditorCall}

theorem SessionGood.opened (good : SessionGood dataType session)
    (begins : Begins dataType call.args) : Opened dataType (call.opened session) := by
  unfold EditorCall.opened
  cases flag : session.statics.number.flag1st with
  | true =>
      have same : (openNumber call.args session.statics).1 = session.statics := by
        rw [openNumber, if_pos flag]
      rw [same]
      exact good flag
  | false =>
      obtain ⟨type, ⟨size, text, isText⟩, length, wheel⟩ := begins
      have shown : setText (printTo size (charBytes text) session.statics.sSetBuf) =
          call.args.text := by
        rw [setText_printTo _ _ (print_fits isText), SetIntFloat.text, isText]
      have places : 0 < dataType.scanned := by cases dataType <;> decide
      simp only [openNumber, flag, isText, Bool.false_eq_true, if_false]
      refine ⟨rfl, by rw [type], ?_, ?_, ?_⟩
      · rw [shown, length]
        exact places
      · rw [shown, length]
      · rw [shown]
        exact wheel

theorem EditorCall.result_eq (begins : call.args.Printed) :
    call.result session = numberKey call.key call.args call.uninit (call.opened session) := by
  unfold EditorCall.result EditorCall.opened setIntFloatMinMax
  dsimp only
  rw [if_pos (openNumber_goes_on begins session.statics)]

theorem TextWellFormed.next {statics : Statics} (good : TextWellFormed dataType statics)
    (inside : dataType = .float32 → statics.sCur ≠ 7) {places : Nat}
    (known : dataType.places = some places) :
    TextWellFormed dataType
      { statics with
        sCur := if (statics.sCur + 1) % 256 = places then 0 else (statics.sCur + 1) % 256 } := by
  have cursor := good.cursor
  have length := good.length
  refine ⟨?_, length, good.wheel⟩
  rw [length] at cursor ⊢
  cases dataType with
  | int8 => cases known; simp only [DataType.scanned] at cursor ⊢; split <;> omega
  | int16 => cases known; simp only [DataType.scanned] at cursor ⊢; split <;> omega
  | int32 => cases known; simp only [DataType.scanned] at cursor ⊢; split <;> omega
  | float32 =>
      cases known
      have last := inside rfl
      simp only [DataType.scanned] at cursor ⊢
      split <;> omega
  | int64 => cases known
  | float64 => cases known

theorem numberKey_wellFormed {statics : Statics} {args : SetIntFloat}
    (opened : Opened dataType statics) (type : args.dataType = dataType) (key : KeyCode)
    (uninit : DecimalText.Number)
    (inside : ¬ (key = .downOk ∧ dataType = .float32 ∧ statics.number.state = false ∧
      statics.sCur = 7)) :
    TextWellFormed dataType (numberKey key args uninit statics).1 ∧
      (numberKey key args uninit statics).1.number.flagDotDisp =
        decide (dataType = .float32) := by
  obtain ⟨_, dot, good⟩ := opened
  cases key with
  | none => exact ⟨good, dot⟩
  | downMenuAndOk => exact ⟨good, dot⟩
  | other => exact ⟨good, dot⟩
  | downUp =>
      rw [numberKey, dot]
      split
      · exact ⟨good, dot⟩
      · exact ⟨good.edit (onWheel_charUp good.under), dot⟩
  | downDown =>
      rw [numberKey, dot]
      split
      · exact ⟨good, dot⟩
      · exact ⟨good.edit (onWheel_charDown good.under), dot⟩
  | downMenu =>
      rw [numberKey]
      split
      · exact ⟨⟨good.cursor, good.length, good.wheel⟩, dot⟩
      · exact ⟨⟨good.cursor, good.length, good.wheel⟩, dot⟩
  | downOk =>
      rw [numberKey]
      split
      · exact ⟨⟨good.cursor, good.length, good.wheel⟩, dot⟩
      · next unprompted =>
          have idle : statics.number.state = false := by simpa using unprompted
          split
          · next places known =>
              rw [type] at known
              exact ⟨good.next (fun float last => inside ⟨rfl, float, idle, last⟩) known, dot⟩
          · exact ⟨good, dot⟩

theorem restored_of_opened (opened : Opened dataType (call.opened session))
    (printed : call.args.Printed) (up : call.key = .downUp) {after : EditorSession}
    (stepped : after.statics = (call.result session).1) {down : EditorCall}
    (isDown : down.key = .downDown) :
    setText (down.result after).1.sSetBuf = setText (call.opened session).sSetBuf := by
  obtain ⟨flag, dot, good⟩ := opened
  rw [EditorCall.result_eq printed, up, numberKey, dot] at stepped
  have found : after.statics.number = (call.opened session).number ∧
      after.statics.sCur = (call.opened session).sCur := by
    rw [stepped]
    split
    · exact ⟨rfl, rfl⟩
    · exact ⟨rfl, rfl⟩
  obtain ⟨number, cursor⟩ := found
  have continued : down.result after =
      numberKey .downDown down.args down.uninit after.statics := by
    have open_still : after.statics.number.flag1st = true := by rw [number, flag]
    unfold EditorCall.result setIntFloatMinMax
    rw [openNumber, if_pos open_still, isDown]
    rfl
  rw [continued, numberKey, number, cursor, dot]
  cases prompted : (call.opened session).number.state with
  | true =>
      rw [prompted, if_pos rfl] at stepped
      rw [if_pos rfl, stepped]
  | false =>
      rw [prompted, if_neg Bool.false_ne_true] at stepped
      rw [if_neg Bool.false_ne_true, stepped]
      have back := good.up_down
      simp only at back ⊢
      rw [back]

/-- One call keeps the session good exactly when it does not step off the text. -/
theorem editorStep_iff (good : SessionGood dataType session) (begins : Begins dataType call.args)
    {after : EditorSession} (stepped : editorStep session call = some after) :
    (EditedWell session call after ↔ ¬ StepsBehind session call) ∧
      (¬ StepsBehind session call → SessionGood dataType after) := by
  have opened := good.opened begins
  have run : after.statics = (call.result session).1 := by
    unfold editorStep at stepped
    split at stepped
    · cases stepped
    · cases Option.some.inj stepped
      rfl
  have kept : ¬ StepsBehind session call → TextWellFormed dataType after.statics ∧
      after.statics.number.flagDotDisp = decide (dataType = .float32) := by
    intro inside
    rw [run, EditorCall.result_eq begins.printed]
    refine numberKey_wellFormed opened begins.type call.key call.uninit ?_
    rintro ⟨ok, float, idle, last⟩
    exact inside ⟨ok, begins.type.trans float, idle, last⟩
  refine ⟨⟨?_, ?_⟩, ?_⟩
  · rintro edited ⟨ok, float, idle, last⟩
    have cursor := edited.wellFormed.cursor
    rw [edited.wellFormed.length, run, EditorCall.result_eq begins.printed, ok, numberKey, idle,
      if_neg Bool.false_ne_true, float] at cursor
    simp only [DataType.places, DataType.scanned, last] at cursor
    exact absurd cursor (by decide)
  · intro inside
    refine ⟨begins.type ▸ (kept inside).1, fun up down isDown => ?_⟩
    exact restored_of_opened opened begins.printed up run isDown
  · intro inside flag
    obtain ⟨wellFormed, dot⟩ := kept inside
    exact ⟨flag, dot, wellFormed⟩

end Calls

theorem allSteps_editedWell_iff {dataType : DataType} {session : EditorSession}
    (good : SessionGood dataType session) (calls : List EditorCall)
    (begins : ∀ call ∈ calls, Begins dataType call.args) :
    Run.AllSteps editorStep EditedWell session calls ↔
      Run.AllSteps editorStep (fun before call _ => ¬ StepsBehind before call) session calls := by
  refine Run.allSteps_iff_of_labels ?_ ?_ begins good
  · exact fun _ _ _ held begun stepped => (editorStep_iff held begun stepped).1
  · exact fun _ _ _ held begun stepped => (editorStep_iff held begun stepped).2

theorem pageArgs_begins {func : PageFunc} {args : SetIntFloat} (own : PageArgs func args)
    (inRange : args.InRange) : Begins args.dataType args := by
  obtain ⟨length, wheel⟩ := pageArgs_text own inRange
  refine ⟨rfl, ?_, length, wheel⟩
  have places : 0 < args.dataType.scanned := by cases args.dataType <;> decide
  unfold SetIntFloat.text at length
  split at length
  · next size text isText => exact ⟨size, text, isText⟩
  · rw [List.length_nil] at length
    omega

/-- A session keeps its text and its cursor well formed exactly as long as the cursor of a
`float` does not step off the eighth character. -/
theorem sessions_editedWell_iff (func : PageFunc) (statics : Statics)
    (closed : statics.number.flag1st = false) (calls : List EditorCall)
    (own : ∀ call ∈ calls, PageArgs func call.args ∧ call.args.InRange) :
    Run.AllSteps editorStep EditedWell ⟨statics, false⟩ calls ↔
      Run.AllSteps editorStep (fun before call _ => ¬ StepsBehind before call) ⟨statics, false⟩
        calls := by
  cases calls with
  | nil => exact Iff.rfl
  | cons call rest =>
      obtain ⟨ownFirst, _⟩ := own call (.head _)
      have good : SessionGood call.args.dataType ⟨statics, false⟩ := by
        intro flag
        cases closed.symm.trans flag
      refine allSteps_editedWell_iff good _ fun other member => ?_
      obtain ⟨ownOther, inRange⟩ := own other member
      rw [pageArgs_dataType ownFirst ownOther]
      exact pageArgs_begins ownOther inRange

/-- The keys of the operator on the page of the first alarm value of a cleared record. -/
def alarmCall (key : KeyCode) : EditorCall :=
  ⟨key, ⟨.float32, .float 0, -10000, 10000⟩, .nan⟩

theorem alarmCall_own (key : KeyCode) :
    PageArgs .menuRelay1AlarmValue (alarmCall key).args ∧ (alarmCall key).args.InRange := by
  have lower : (-10000 : Rat) ≤ 0 := by decide
  have upper : (0 : Rat) ≤ 10000 := by decide
  exact ⟨⟨GlobalDef.cleared, rfl⟩, 0, rfl, lower, upper⟩

/-- Two steps of the cursor, three of the wheel, and the number is accepted: `001000.0`. -/
def thousandKeys : List KeyCode :=
  [.downOk, .downOk, .downUp, .downUp, .downDown, .downMenu, .downMenu]

theorem sessions_editedWell_iff_alarm :
    (Run.run editorStep ⟨.cleared, false⟩ (thousandKeys.map alarmCall)).map
        (fun session => bytesChars (setText session.statics.sSetBuf)) =
      some ['0', '0', '1', '0', '0', '0', '.', '0'] ∧
      Run.AllSteps editorStep EditedWell ⟨.cleared, false⟩ (thousandKeys.map alarmCall) := by
  refine ⟨by decide +kernel, ?_⟩
  refine (sessions_editedWell_iff .menuRelay1AlarmValue .cleared rfl _ fun call member => ?_).mpr
    (by decide +kernel)
  obtain ⟨key, _, rfl⟩ := List.mem_map.mp member
  exact alarmCall_own key

/-- Eight presses of the key that moves the cursor put it on the terminator. -/
theorem cursor_on_terminator :
    ¬ ∀ (func : PageFunc) (statics : Statics) (calls : List EditorCall),
      statics.number.flag1st = false →
        (∀ call ∈ calls, PageArgs func call.args ∧ call.args.InRange) →
          Run.AllSteps editorStep EditedWell ⟨statics, false⟩ calls := by
  intro always
  have all := always .menuRelay1AlarmValue .cleared
    (List.replicate 7 (alarmCall .downOk) ++ [alarmCall .downOk]) rfl ?_
  · have off : (Run.run editorStep ⟨.cleared, false⟩
        (List.replicate 7 (alarmCall .downOk) ++ [alarmCall .downOk])).map (fun session =>
          decide (session.statics.sCur < (setText session.statics.sSetBuf).length)) =
            some false := by
      decide +kernel
    obtain ⟨final, ran, behind⟩ := Option.map_eq_some_iff.mp off
    obtain ⟨before, began, stepped⟩ := Run.run_concat_some ran
    have edited := all.last began stepped
    exact of_decide_eq_false behind edited.wellFormed.cursor
  · intro call member
    have same : call = alarmCall .downOk := by
      rcases List.mem_append.mp member with early | last
      · exact List.eq_of_mem_replicate early
      · exact List.mem_singleton.mp last
    rw [same]
    exact alarmCall_own .downOk

end ZhuoduControl.Menu.Edit
