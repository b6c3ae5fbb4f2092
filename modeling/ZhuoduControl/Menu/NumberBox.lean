import ZhuoduControl.Drivers.Lcd12864
import ZhuoduControl.Library.DecimalReading
import ZhuoduControl.Library.Run
import ZhuoduControl.Menu.Editors

/-! `set_number_box`: the field with which the calibration pages edit a number. -/

set_option autoImplicit false

namespace ZhuoduControl.Menu.Box

open ZhuoduControl.Library
open ZhuoduControl.Library.DecimalText
open ZhuoduControl.Data
open ZhuoduControl.Drivers
open ZhuoduControl.Menu.Frame
open ZhuoduControl.Menu.Edit (charBytes bytesChars printTo)

/-- `BOX_STAT` -/
inductive BoxStat
  | unfocused
  | focused
  | modifing
  | saving
deriving DecidableEq, Repr

inductive BoxType
  | integer
  | float
deriving DecidableEq, Repr

/-- What a page sets up once. -/
structure BoxConfig where
  x : Nat
  y : Nat
  boxWidth : Nat
  dataWidth : Nat
  dataType : BoxType
  min : Rat
  max : Rat
deriving DecidableEq

structure NumberBox extends BoxConfig where
  isReadonly : Bool
  isShow : Bool
  boxStat : BoxStat
  setIndex : Nat
  setInteger : U32
  setFloat : U32
  setBuf : Memory U8

/-- What the C library reads under `%lf`, and what a `double` between the bounds of a box
is converted to. -/
structure Clib where
  sscanf : List U8 → Option Number
  toUint32 : Rat → U32

/-- A complete number is read as it is, and an integer that fits is kept. -/
structure Clib.Sound (clib : Clib) : Prop where
  reads : ∀ text value, readSigned (bytesChars text) = some value →
    clib.sscanf text = some (.finite value)
  keeps : ∀ value : Nat, value < 2 ^ 32 → clib.toUint32 value = BitVec.ofNat 32 value

/-- The string in the 17 bytes of `set_buf` from `start` on. -/
def stringAt (setBuf : Memory U8) (start : Nat) : List U8 :=
  (setBuf.load start (17 - start)).takeWhile fun byte => byte != 0

/-- The conversion `%0<width>f` of a widened `float`. -/
def formatFloat (width : Nat) (bits : U32) : List Char :=
  match Binary32.decode bits with
  | .finite negative magnitude => formatFixed 6 width negative magnitude (2 ^ 149)
  | .infinite negative => formatWord width negative ['i', 'n', 'f']
  | .nan => formatWord width false ['n', 'a', 'n']

/-- `KEY_DOWN_UP` on a character. -/
def wheelUp (dataType : BoxType) (old : U8) : U8 :=
  let ascii := old + 1
  if ascii = 0x3A then if dataType = .float then 0x2E else 0x30
  else if ascii = 0x2F then 0x30
  else ascii

/-- `KEY_DOWN_DOWN` on a character. -/
def wheelDown (dataType : BoxType) (old : U8) : U8 :=
  let ascii := old - 1
  if ascii = 0x2F then if dataType = .float then 0x2E else 0x39
  else if ascii = 0x2D then 0x39
  else ascii

namespace NumberBox

def text (box : NumberBox) : List U8 := stringAt box.setBuf 0

def print (text : List Char) (box : NumberBox) : NumberBox :=
  { box with setBuf := printTo (box.boxWidth + 1) (charBytes text) box.setBuf }

/-- The text while the box is not edited. -/
def showText (box : NumberBox) : List Char :=
  leftJustified box.boxWidth <|
    match box.dataType with
    | .integer => formatInt 0 box.setInteger.toInt
    | .float => formatFloat 0 box.setFloat

/-- The text that an edit begins with. -/
def editText (box : NumberBox) : List Char :=
  match box.dataType with
  | .integer => formatInt box.dataWidth box.setInteger.toInt
  | .float => formatFloat box.dataWidth box.setFloat

def display (box : NumberBox) : NumberBox := { box with setIndex := 0 }.print box.showText

def wheel (change : U8 → U8) (box : NumberBox) : NumberBox :=
  { box with setBuf := box.setBuf.set box.setIndex (change (box.setBuf box.setIndex)) }

def moveCursor (box : NumberBox) : NumberBox :=
  let next := (box.setIndex + 1) % 256
  { box with setIndex := if next = box.dataWidth then 0 else next }

/-- `uninit` stays in `retVal` if nothing is scanned. Only a finite number is between two
bounds. -/
def save (clib : Clib) (uninit : Number) (box : NumberBox) : NumberBox :=
  match (clib.sscanf box.text).getD uninit with
  | .finite retVal =>
      if retVal < box.max ∧ box.min < retVal then
        match box.dataType with
        | .integer => { box with setInteger := clib.toUint32 retVal }
        | .float => { box with setFloat := Binary32.ofRat retVal }
      else box
  | _ => box

/-- What `set_number_box` does with the box. -/
def edit (clib : Clib) (msg : KeyCode) (uninit : Number) (box : NumberBox) : NumberBox :=
  match box.boxStat with
  | .unfocused => box.display
  | .focused =>
      if msg = .downOk ∧ box.isReadonly = false then
        { box.display.print box.editText with boxStat := .modifing }
      else box.display
  | .modifing =>
      match msg with
      | .downUp => box.wheel (wheelUp box.dataType)
      | .downDown => box.wheel (wheelDown box.dataType)
      | .downMenu => { box with boxStat := .saving }
      | .downOk => box.moveCursor
      | _ => box
  | .saving =>
      match msg with
      | .downMenu => { box.save clib uninit with boxStat := .focused }
      | .downOk => { box with boxStat := .focused }
      | _ => box

/-- The box is in `MODIFING` or `SAVING`. -/
def editing (box : NumberBox) : Bool := box.boxStat = .modifing || box.boxStat = .saving

/-- The call begins an edit. -/
def opens (msg : KeyCode) (box : NumberBox) : Bool :=
  box.boxStat = .focused && msg = .downOk && !box.isReadonly

/-- The call leaves `SAVING`. -/
def closes (msg : KeyCode) (box : NumberBox) : Bool :=
  box.boxStat = .saving && (msg = .downMenu || msg = .downOk)

/-- The first of the two rows that are kept. -/
def keptLine (box : NumberBox) : Nat := if box.y ≠ 32 then 4 else 2

/-- The place of the prompt. -/
def promptY (box : NumberBox) : Nat := if box.y ≠ 32 then 32 else 16

def capture (box : NumberBox) (lcd buf : Memory U8) : Memory U8 :=
  getLineDat (box.keptLine + 1) lcd 128 (getLineDat box.keptLine lcd 0 buf)

def restore (box : NumberBox) (buf lcd : Memory U8) : Memory U8 :=
  setLineDat (box.keptLine + 1) buf 128 (setLineDat box.keptLine buf 0 lcd)

end NumberBox

def yesno : List U8 := "<-保存    退出->".toUTF8.toList.map UInt8.toBitVec

/-- The part of `buf` before its terminator. -/
def single (byte : U8) : List U8 := [byte].takeWhile fun other => other != 0

def dispNumberBox (font : Font) (box : NumberBox) (lcd : Memory U8) : Memory U8 :=
  if box.isShow then
    match box.boxStat with
    | .unfocused => lcdDisplayString font box.x box.y box.text false lcd
    | .focused => lcdDisplayString font box.x box.y box.text true lcd
    | .modifing =>
        let front := box.text.take (Nat.min box.setIndex box.boxWidth)
        let back := (stringAt box.setBuf (box.setIndex + 1)).take box.boxWidth
        lcdDisplayString font (box.x + (1 + box.setIndex) * 8) box.y back false
          (lcdDisplayString font (box.x + box.setIndex * 8) box.y
            (single (box.setBuf box.setIndex)) true
            (lcdDisplayString font box.x box.y front false lcd))
    | .saving => lcdDisplayString font 0 box.promptY yesno false lcd
  else lcd

/-- `lcd_buf`, and the `buf` that all boxes share. -/
structure BoxScreen where
  lcd : Memory U8
  buf : Memory U8

def setNumberBox (clib : Clib) (font : Font) (msg : KeyCode) (uninit : Number) (box : NumberBox)
    (screen : BoxScreen) : NumberBox × BoxScreen :=
  let edited := box.edit clib msg uninit
  let lcd := if box.closes msg then box.restore screen.buf screen.lcd else screen.lcd
  let buf := if box.opens msg then box.capture screen.lcd screen.buf else screen.buf
  (edited, ⟨dispNumberBox font edited lcd, buf⟩)

section Configurations

/-- The widths of all boxes but those of `menu_linear_cali`. -/
def shortBox (x y : Nat) (dataType : BoxType) (min : Rat) : BoxConfig :=
  ⟨x, y, 5, 5, dataType, min, 65535⟩

def coeffABBoxes : List BoxConfig := [shortBox 80 16 .float (-100), shortBox 80 32 .float (-100)]

def signalBoxes : List BoxConfig :=
  [shortBox 80 0 .integer (-100), shortBox 80 16 .integer (-100)]

def canbiZhuoduBox : BoxConfig := shortBox 72 16 .float (-100)

def zeroCaliBox : BoxConfig := shortBox 88 16 .integer 0

def fullCaliBox : BoxConfig := shortBox 80 16 .float (-100)

/-- The eight boxes in two screens of four. -/
def linearCaliBox (index : Fin 8) : BoxConfig :=
  ⟨72, index.val % 4 * 16, 7, 8, .float, 0, 30001⟩

def pageBoxes : List BoxConfig :=
  coeffABBoxes ++ signalBoxes ++ [canbiZhuoduBox, zeroCaliBox, fullCaliBox] ++
    (List.finRange 8).map linearCaliBox

end Configurations

/-- What happens to a box of a page. Between two calls the page may move the focus, hide or
show the box, and draw; its other boxes take `buf` only while this one is not edited. -/
inductive BoxEvent
  | call (msg : KeyCode) (uninit : Number)
  | page (focus : Option Bool) (isShow : Bool) (screen : BoxScreen)

structure BoxSession where
  box : NumberBox
  screen : BoxScreen
  /-- the screen when the last edit began -/
  began : Memory U8

def BoxSession.page (focus : Option Bool) (isShow : Bool) (screen : BoxScreen)
    (session : BoxSession) : BoxSession :=
  let moved : BoxStat :=
    match focus with
    | some true => .focused
    | some false => .unfocused
    | none => session.box.boxStat
  let box := { session.box with boxStat := moved, isShow := isShow }
  let buf := if box.editing then session.screen.buf else screen.buf
  { session with box := box, screen := ⟨screen.lcd, buf⟩ }

def BoxSession.call (clib : Clib) (font : Font) (msg : KeyCode) (uninit : Number)
    (session : BoxSession) : BoxSession :=
  let result := setNumberBox clib font msg uninit session.box session.screen
  ⟨result.1, result.2,
    if session.box.opens msg then session.screen.lcd else session.began⟩

def boxStep (clib : Clib) (font : Font) (session : BoxSession) : BoxEvent → Option BoxSession
  | .call msg uninit => some (session.call clib font msg uninit)
  | .page focus isShow screen => some (session.page focus isShow screen)

section Calls

variable {clib : Clib} {uninit : Number} {box : NumberBox}

/-- What a call makes of a box. -/
inductive Edited (clib : Clib) (uninit : Number) (box : NumberBox) : KeyCode → NumberBox → Prop
  | unfocused {msg} (stat : box.boxStat = .unfocused) : Edited clib uninit box msg box.display
  | focused {msg} (stat : box.boxStat = .focused)
      (closed : ¬ (msg = .downOk ∧ box.isReadonly = false)) : Edited clib uninit box msg box.display
  | opens (stat : box.boxStat = .focused) (writable : box.isReadonly = false) :
      Edited clib uninit box .downOk { box.display.print box.editText with boxStat := .modifing }
  | up (stat : box.boxStat = .modifing) :
      Edited clib uninit box .downUp (box.wheel (wheelUp box.dataType))
  | down (stat : box.boxStat = .modifing) :
      Edited clib uninit box .downDown (box.wheel (wheelDown box.dataType))
  | asks (stat : box.boxStat = .modifing) :
      Edited clib uninit box .downMenu { box with boxStat := .saving }
  | moves (stat : box.boxStat = .modifing) :
      Edited clib uninit box .downOk box.moveCursor
  | idles {msg} (stat : box.boxStat = .modifing)
      (other : msg ≠ .downUp ∧ msg ≠ .downDown ∧ msg ≠ .downMenu ∧ msg ≠ .downOk) :
      Edited clib uninit box msg box
  | saves (stat : box.boxStat = .saving) :
      Edited clib uninit box .downMenu { box.save clib uninit with boxStat := .focused }
  | cancels (stat : box.boxStat = .saving) :
      Edited clib uninit box .downOk { box with boxStat := .focused }
  | waits {msg} (stat : box.boxStat = .saving) (other : msg ≠ .downMenu ∧ msg ≠ .downOk) :
      Edited clib uninit box msg box

theorem NumberBox.edited (clib : Clib) (msg : KeyCode) (uninit : Number) (box : NumberBox) :
    Edited clib uninit box msg (box.edit clib msg uninit) := by
  unfold edit
  cases stat : box.boxStat with
  | unfocused => exact .unfocused stat
  | focused =>
      dsimp only
      split
      · next opens =>
          rw [opens.1]
          exact .opens stat opens.2
      · next closed => exact .focused stat closed
  | modifing =>
      cases msg with
      | downUp => exact .up stat
      | downDown => exact .down stat
      | downMenu => exact .asks stat
      | downOk => exact .moves stat
      | none => exact .idles stat (by decide)
      | downMenuAndOk => exact .idles stat (by decide)
      | other => exact .idles stat (by decide)
  | saving =>
      cases msg with
      | downMenu => exact .saves stat
      | downOk => exact .cancels stat
      | downUp => exact .waits stat (by decide)
      | downDown => exact .waits stat (by decide)
      | none => exact .waits stat (by decide)
      | downMenuAndOk => exact .waits stat (by decide)
      | other => exact .waits stat (by decide)

/-- A save takes the number that is read, if it is between the bounds. -/
theorem NumberBox.save_cases (clib : Clib) (uninit : Number) (box : NumberBox) :
    box.save clib uninit = box ∨
      ∃ value, (clib.sscanf box.text).getD uninit = .finite value ∧
        box.min < value ∧ value < box.max ∧
        ((box.dataType = .integer ∧
            box.save clib uninit = { box with setInteger := clib.toUint32 value }) ∨
          (box.dataType = .float ∧
            box.save clib uninit = { box with setFloat := Binary32.ofRat value })) := by
  unfold save
  cases scanned : (clib.sscanf box.text).getD uninit with
  | nan => exact .inl rfl
  | infinite negative => exact .inl rfl
  | finite value =>
      dsimp only
      split
      · next inside =>
          refine .inr ⟨value, rfl, inside.2, inside.1, ?_⟩
          cases type : box.dataType with
          | integer => exact .inl ⟨rfl, rfl⟩
          | float => exact .inr ⟨rfl, rfl⟩
      · exact .inl rfl

theorem NumberBox.save_kept (clib : Clib) (uninit : Number) (box : NumberBox) :
    (box.save clib uninit).toBoxConfig = box.toBoxConfig ∧
      (box.save clib uninit).isReadonly = box.isReadonly ∧
      (box.save clib uninit).setBuf = box.setBuf := by
  rcases box.save_cases clib uninit with same | ⟨value, _, _, _, ⟨_, same⟩ | ⟨_, same⟩⟩
  · rw [same]
    exact ⟨rfl, rfl, rfl⟩
  · rw [same]
    exact ⟨rfl, rfl, rfl⟩
  · rw [same]
    exact ⟨rfl, rfl, rfl⟩

theorem Edited.config {msg : KeyCode} {after : NumberBox} (edited : Edited clib uninit box msg after) :
    after.toBoxConfig = box.toBoxConfig := by
  cases edited with
  | saves => exact (box.save_kept clib uninit).1
  | _ => rfl

end Calls

end ZhuoduControl.Menu.Box
