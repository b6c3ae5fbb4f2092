import ZhuoduControl.Data.Word
import ZhuoduControl.Library.DecimalText
import ZhuoduControl.Menu.Frame

/-! The three editors the pages share, with their statics: `set_select`,
`set_int_float_min_max` and `get_password`. -/

set_option autoImplicit false

namespace ZhuoduControl.Menu.Edit

open ZhuoduControl.Library
open ZhuoduControl.Data
open ZhuoduControl.Menu.Frame

/-- `SET_STAT`; `SET_SAVE` is never returned, and `SET_OK` comes with the value. -/
inductive SetStat (Value : Type)
  | ok (value : Value)
  | ing
  | maxMinError
  | exit

/-- Most pages leave on these two. -/
def SetStat.leaves {Value : Type} : SetStat Value → Bool
  | .ok _ => true
  | .exit => true
  | _ => false

/-- `DATA_TYPE` -/
inductive DataType
  | int8
  | int16
  | int32
  | int64
  | float32
  | float64
deriving DecidableEq, Repr

/-- The `double` a page passes: an integer or a widened `float`, or any other number. -/
inductive SetData
  | integer (value : Int)
  | float (bits : U32)
  | real (value : Rat)
deriving DecidableEq

/-- `SetIntFloatDef`; the result is returned. -/
structure SetIntFloat where
  dataType : DataType
  setData : SetData
  min : Rat
  max : Rat
deriving DecidableEq

def SetIntFloat.cleared : SetIntFloat := ⟨.int8, .integer 0, 0, 0⟩

structure SelectStatics where
  flag1st : Bool
  /-- the save prompt is shown -/
  flag : Bool
  eeVal : Nat

structure NumberStatics where
  flag1st : Bool
  /-- the save prompt is shown -/
  state : Bool
  flagDotDisp : Bool

structure PasswordStatics where
  flag : Bool
  keyDown : Bool
  cnt : Nat

/-- The statics of the editors and of the two calibration pages; `s_DispBuf` only draws. -/
structure Statics where
  select : SelectStatics
  number : NumberStatics
  password : PasswordStatics
  sCur : Nat
  sSetBuf : Memory U8
  setIntFloat : SetIntFloat
  flag4mA : Bool
  flag20mA : Bool
  flagReset : Bool

/-- The statics at power on. -/
def Statics.cleared : Statics where
  select := ⟨false, false, 0⟩
  number := ⟨false, false, false⟩
  password := ⟨false, false, 0⟩
  sCur := 0
  sSetBuf := fun _ => 0
  setIntFloat := .cleared
  flag4mA := false
  flag20mA := false
  flagReset := false

def charBytes (text : List Char) : List U8 := text.map fun c => BitVec.ofNat 8 c.toNat

def bytesChars (bytes : List U8) : List Char := bytes.map fun byte => Char.ofNat byte.toNat

/-- `snprintf` into `s_set_buf` of a text that is already formatted. -/
def printTo (size : Nat) (text : List U8) (buffer : Memory U8) : Memory U8 :=
  buffer.store 0 (text.take (size - 1) ++ [0])

/-- The string in the 25 bytes of `s_set_buf`. -/
def setText (buffer : Memory U8) : List U8 :=
  (buffer.load 0 25).takeWhile fun byte => byte != 0

section Select

/-- What a page passes: the texts, and the entry that is set. -/
structure SelectArgs where
  array : List (List U8)
  currIndex : Nat

/-- The block under `flag1st == 0`. -/
def beginSelect (args : SelectArgs) (statics : Statics) : Statics :=
  if statics.select.flag1st then statics
  else { statics with select := ⟨true, false, args.currIndex % 256⟩ }

/-- The text of the selection goes to `s_set_buf`; `stray` is what is read as a text
behind the end of the array. -/
def showSelect (args : SelectArgs) (stray : List U8) (statics : Statics) : Statics :=
  { statics with
    sSetBuf := printTo 25 (args.array.getD statics.select.eeVal stray) statics.sSetBuf }

def openSelect (args : SelectArgs) (stray : List U8) (statics : Statics) : Statics :=
  showSelect args stray (beginSelect args statics)

def Statics.withSelect (statics : Statics) (select : SelectStatics) : Statics :=
  { statics with select := select }

/-- The case `KEY_DOWN_MENU`, which `KEY_DOWN_DOWN` falls into behind the last entry. -/
def selectMenu (statics : Statics) : Statics × SetStat Nat :=
  if statics.select.flag then
    (statics.withSelect { statics.select with flag1st := false }, .ok statics.select.eeVal)
  else (statics.withSelect { statics.select with flag := true }, .ing)

def selectKey (msg : KeyCode) (sizeArray : Nat) (statics : Statics) : Statics × SetStat Nat :=
  let select := statics.select
  match msg with
  | .downUp =>
      if select.flag then (statics, .ing)
      else if select.eeVal = 0 then
        (statics.withSelect { select with eeVal := sizeArray - 1 }, .ing)
      else (statics.withSelect { select with eeVal := select.eeVal - 1 }, .ing)
  | .downDown =>
      if select.flag then (statics, .ing)
      else if select.eeVal = sizeArray - 1 then
        (statics.withSelect { select with eeVal := 0 }, .ing)
      else if select.eeVal < sizeArray - 1 then
        (statics.withSelect { select with eeVal := select.eeVal + 1 }, .ing)
      else selectMenu statics
  | .downMenu => selectMenu statics
  | .downOk =>
      if select.flag then (statics.withSelect { select with flag1st := false }, .exit)
      else if select.eeVal = sizeArray - 1 then
        (statics.withSelect { select with eeVal := 0 }, .ing)
      else if select.eeVal < sizeArray - 1 then
        (statics.withSelect { select with eeVal := select.eeVal + 1 }, .ing)
      else (statics.withSelect { select with flag1st := false }, .exit)
  | _ => (statics, .ing)

def setSelect (msg : KeyCode) (args : SelectArgs) (stray : List U8) (statics : Statics) :
    Statics × SetStat Nat :=
  selectKey msg args.array.length (openSelect args stray statics)

end Select

section Number

def int32Min : Int := -2147483648
def int32Max : Int := 2147483647

/-- The conversion to `int32_t`, which keeps to the limits. -/
def SetData.toInt32 : SetData → Int
  | .integer value => max int32Min (min int32Max value)
  | .float bits =>
      match Binary32.decode bits with
      | .finite negative magnitude =>
          let truncated : Int := (magnitude / 2 ^ 149 : Nat)
          max int32Min (min int32Max (if negative then -truncated else truncated))
      | .infinite negative => if negative then int32Min else int32Max
      | .nan => 0
  | .real value => max int32Min (min int32Max (value.num.tdiv value.den))

def SetData.formatInt (width : Nat) (setData : SetData) : List Char :=
  DecimalText.formatInt width setData.toInt32

/-- The conversion `%08.1f`. -/
def SetData.formatReal : SetData → List Char
  | .integer value => DecimalText.formatTenths 8 (decide (value < 0)) value.natAbs 1
  | .float bits =>
      match Binary32.decode bits with
      | .finite negative magnitude => DecimalText.formatTenths 8 negative magnitude (2 ^ 149)
      | .infinite negative => DecimalText.formatWord 8 negative ['i', 'n', 'f']
      | .nan => DecimalText.formatWord 8 false ['n', 'a', 'n']
  | .real value => DecimalText.formatTenths 8 (decide (value < 0)) value.num.natAbs value.den

/-- The size and the text of the first `snprintf`; the other types have none. -/
def DataType.print (setData : SetData) : DataType → Option (Nat × List Char)
  | .int8 => some (4, setData.formatInt 3)
  | .int16 => some (6, setData.formatInt 5)
  | .int32 => some (7, setData.formatInt 6)
  | .float32 => some (17, setData.formatReal)
  | _ => none

/-- The block under `flag1st == 0`; `none` is its early return. -/
def openNumber (args : SetIntFloat) (statics : Statics) : Statics × Bool :=
  if statics.number.flag1st then (statics, true)
  else
    let begun : Statics :=
      { statics with number := { statics.number with flag1st := true, state := false }, sCur := 0 }
    match args.dataType.print args.setData with
    | some (size, text) =>
        ({ begun with
          number := { begun.number with flagDotDisp := args.dataType = .float32 }
          sSetBuf := printTo size (charBytes text) begun.sSetBuf }, true)
    | none => (begun, false)

/-- `KEY_DOWN_UP` on a character, on the first place or behind it. -/
def charUp (first flagDotDisp : Bool) (old : U8) : U8 :=
  let ascii := old + 1
  if ascii = 0x3A then
    if flagDotDisp then 0x2E else if first then 0x2D else 0x30
  else if ascii = 0x2F then if first then 0x2D else 0x30
  else if first ∧ ascii = 0x2E then 0x30
  else ascii

/-- `KEY_DOWN_DOWN` on a character, on the first place or behind it. -/
def charDown (first flagDotDisp : Bool) (old : U8) : U8 :=
  let ascii := old - 1
  if ascii = 0x2F then
    if first then 0x2D else if flagDotDisp then 0x2E else 0x39
  else if first ∧ ascii = 0x2C then if flagDotDisp then 0x2E else 0x39
  else if ascii = 0x2D then 0x39
  else ascii

/-- The places the cursor runs through. -/
def DataType.places : DataType → Option Nat
  | .int8 => some 3
  | .int16 => some 5
  | .int32 => some 6
  | .float32 => some 10
  | _ => none

/-- The places `sscanf` reads. -/
def DataType.scanned : DataType → Nat
  | .int8 => 3
  | .int16 => 5
  | .int32 => 6
  | .float32 => 8
  | _ => 10

/-- The bounds; `uninit` is the number that stays if nothing is scanned. -/
def checkNumber (args : SetIntFloat) (uninit : DecimalText.Number) (text : List Char) :
    SetStat DecimalText.Number :=
  let retVal := (DecimalText.scanReal args.dataType.scanned text).getD uninit
  if (DecimalText.Number.finite args.max).lt retVal ∨ retVal.lt (.finite args.min) then
    .maxMinError
  else .ok retVal

def Statics.withNumber (statics : Statics) (number : NumberStatics) : Statics :=
  { statics with number := number }

def Statics.edit (statics : Statics) (change : U8 → U8) : Statics :=
  { statics with
    sSetBuf := statics.sSetBuf.set statics.sCur (change (statics.sSetBuf statics.sCur)) }

def numberKey (msg : KeyCode) (args : SetIntFloat) (uninit : DecimalText.Number)
    (statics : Statics) : Statics × SetStat DecimalText.Number :=
  let number := statics.number
  match msg with
  | .downUp =>
      if number.state then (statics, .ing)
      else (statics.edit (charUp (statics.sCur = 0) number.flagDotDisp), .ing)
  | .downDown =>
      if number.state then (statics, .ing)
      else (statics.edit (charDown (statics.sCur = 0) number.flagDotDisp), .ing)
  | .downMenu =>
      if number.state then
        (statics.withNumber { number with flag1st := false },
          checkNumber args uninit (bytesChars (setText statics.sSetBuf)))
      else (statics.withNumber { number with state := true }, .ing)
  | .downOk =>
      if number.state then (statics.withNumber { number with flag1st := false }, .exit)
      else
        match args.dataType.places with
        | some places =>
            let next := (statics.sCur + 1) % 256
            ({ statics with sCur := if next = places then 0 else next }, .ing)
        | none => (statics, .ing)
  | _ => (statics, .ing)

def setIntFloatMinMax (msg : KeyCode) (args : SetIntFloat) (uninit : DecimalText.Number)
    (statics : Statics) : Statics × SetStat DecimalText.Number :=
  let (opened, goes_on) := openNumber args statics
  if goes_on then numberKey msg args uninit opened else (opened, .exit)

end Number

section Password

/-- The block under `flag == 0`. -/
def openPassword (statics : Statics) : Statics :=
  if statics.password.flag then statics
  else
    { statics with
      password := { statics.password with flag := true }
      sCur := 0
      sSetBuf := printTo 7 (charBytes ['0', '0', '0', '0', '0', '0']) statics.sSetBuf }

/-- The digit under the cursor is shown for 30 passes after a key. -/
def showDigit (password : PasswordStatics) : PasswordStatics :=
  if password.keyDown ∧ password.cnt < 30 then { password with cnt := password.cnt + 1 }
  else { password with keyDown := false, cnt := 0 }

def digitUp (old : U8) : U8 := if old + 1 = 0x3A then 0x30 else old + 1

def digitDown (old : U8) : U8 := if old - 1 = 0x2F then 0x39 else old - 1

def Statics.keyDown (statics : Statics) : Statics :=
  { statics with password := { statics.password with keyDown := true, cnt := 0 } }

/-- `strncpy` of six bytes out of `s_set_buf`. -/
def copySix (buffer : Memory U8) : List U8 :=
  let text := (buffer.load 0 6).takeWhile fun byte => byte != 0
  text ++ List.replicate (6 - text.length) 0

/-- The buffer that is passed out is `none` while the function returns 0. -/
def passwordKey (msg : KeyCode) (statics : Statics) : Statics × Option (List U8) :=
  match msg with
  | .downUp => (statics.keyDown.edit digitUp, none)
  | .downDown => (statics.keyDown.edit digitDown, none)
  | .downMenu =>
      ({ statics with password := ⟨false, false, 0⟩ }, some (copySix statics.sSetBuf))
  | .downOk =>
      let next := (statics.sCur + 1) % 256
      ({ statics.keyDown with sCur := if next = 6 then 0 else next }, none)
  | _ => (statics, none)

def getPassword (msg : KeyCode) (statics : Statics) : Statics × Option (List U8) :=
  let opened := openPassword statics
  passwordKey msg { opened with password := showDigit opened.password }

/-- `strncmp` finds no difference; behind its end a list stands for a terminator. -/
def strncmpEqual : Nat → List U8 → List U8 → Bool
  | 0, _, _ => true
  | count + 1, left, right =>
      left.headD 0 = right.headD 0 &&
        (left.headD 0 = 0 || strncmpEqual count left.tail right.tail)

end Password

end ZhuoduControl.Menu.Edit
