import ZhuoduControl.Data.Word
import ZhuoduControl.Library.RingBuffer

/-! The key driver: the ring of key codes, and the buttons that are scanned every 10 ms. -/

set_option autoImplicit false

namespace ZhuoduControl.Drivers.Button

open ZhuoduControl.Data
open ZhuoduControl.Library

section Codes

def keyNone : U8 := 0
def keyDownUp : U8 := 1
def keyUpUp : U8 := 2
def keyDownDown : U8 := 4
def keyUpDown : U8 := 5
def keyDownMenu : U8 := 7
def keyUpMenu : U8 := 8
def keyDownOk : U8 := 10
def keyUpOk : U8 := 11
def keyDownMenuAndOk : U8 := 13
def keyUpMenuAndOk : U8 := 14
def keyCombMenuPrimUp : U8 := 16
def keyCombUpPrimMenu : U8 := 17
def keyCombMenuPrimDown : U8 := 18
def keyCombDownPrimMenu : U8 := 19

end Codes

section Fifo

def keyFifoSize : Nat := 5

structure KeyFifo where
  buf : Memory U8
  read : Nat
  write : Nat

def KeyFifo.clear (fifo : KeyFifo) : KeyFifo := { fifo with read := 0, write := 0 }

def putKey (keyCode : U8) (fifo : KeyFifo) : KeyFifo :=
  { fifo with
    buf := fifo.buf.set fifo.write keyCode
    write := RingBuffer.next keyFifoSize fifo.write }

end Fifo

section Pins

/-- What the pins of the four buttons tell; `true` is pressed. -/
structure Pins where
  up : Bool
  down : Bool
  ok : Bool
  menu : Bool

/-- The samples 0 to 3, which are the states of a button as well. -/
inductive KeyStat
  | allUp
  | allDown
  /-- `MENU` alone -/
  | firstDown
  /-- the other button alone -/
  | secondDown
deriving DecidableEq, Repr

def statKeyDown (pressed : Bool) : KeyStat := if pressed then .allDown else .allUp

def statKeyDownUp (pins : Pins) : KeyStat := statKeyDown pins.up
def statKeyDownDown (pins : Pins) : KeyStat := statKeyDown pins.down
def statKeyDownOk (pins : Pins) : KeyStat := statKeyDown pins.ok
def statKeyDownMenu (pins : Pins) : KeyStat := statKeyDown pins.menu

def statKeyDownBoth (menu other : Bool) : KeyStat :=
  if menu && other then .allDown
  else if menu && !other then .firstDown
  else if !menu && other then .secondDown
  else .allUp

def statKeyDownMenuUp (pins : Pins) : KeyStat := statKeyDownBoth pins.menu pins.up
def statKeyDownMenuDown (pins : Pins) : KeyStat := statKeyDownBoth pins.menu pins.down
def statKeyDownMenuOk (pins : Pins) : KeyStat := statKeyDownBoth pins.menu pins.ok

end Pins

section Buttons

structure BtnVar where
  count : Nat
  filterTime : Nat
  longCount : Nat
  longTime : Nat
  state : KeyStat
  keyCodeUp : U8
  keyCodeDown : U8
  keyCodeLong : U8
  keyCodeCombPrime12 : U8
  keyCodeCombPrime21 : U8

def buttonFilterTime : Nat := 2
def buttonLongTime : Nat := 100

/-- A static variable before its first assignment. -/
def BtnVar.cleared : BtnVar := ⟨0, 0, 0, 0, .allUp, 0, 0, 0, 0, 0⟩

/-- The buttons in the order in which they are scanned. -/
inductive ButtonName
  | up
  | down
  | ok
  | menu
  | menuUp
  | menuDown
  | menuOk
deriving DecidableEq, Repr

def ButtonName.isKeyDownFunc : ButtonName → Pins → KeyStat
  | up => statKeyDownUp
  | down => statKeyDownDown
  | ok => statKeyDownOk
  | menu => statKeyDownMenu
  | menuUp => statKeyDownMenuUp
  | menuDown => statKeyDownMenuDown
  | menuOk => statKeyDownMenuOk

/-- `LongCount` is the one member that is not assigned. -/
def BtnVar.init (btn : BtnVar) (longTime : Nat) (keyCodeDown keyCodeUp keyCodeCombPrime12
    keyCodeCombPrime21 : U8) : BtnVar :=
  { btn with
    count := buttonFilterTime / 2
    filterTime := buttonFilterTime
    longTime := longTime
    state := .allUp
    keyCodeDown := keyCodeDown
    keyCodeUp := keyCodeUp
    keyCodeLong := 0
    keyCodeCombPrime12 := keyCodeCombPrime12
    keyCodeCombPrime21 := keyCodeCombPrime21 }

/-- The codes of a combination are not assigned for the single buttons. -/
def initButtonVar (btn : BtnVar) : ButtonName → BtnVar
  | .up => btn.init buttonLongTime keyDownUp keyUpUp btn.keyCodeCombPrime12 btn.keyCodeCombPrime21
  | .down =>
      btn.init buttonLongTime keyDownDown keyUpDown btn.keyCodeCombPrime12 btn.keyCodeCombPrime21
  | .ok =>
      btn.init (2 * buttonLongTime) keyDownOk keyUpOk btn.keyCodeCombPrime12 btn.keyCodeCombPrime21
  | .menu =>
      btn.init buttonLongTime keyDownMenu keyUpMenu btn.keyCodeCombPrime12 btn.keyCodeCombPrime21
  | .menuUp => btn.init 0 0 0 keyCombMenuPrimUp keyCombUpPrimMenu
  | .menuDown => btn.init 0 0 0 keyCombMenuPrimDown keyCombDownPrimMenu
  | .menuOk => btn.init 0 0 keyUpMenuAndOk keyDownMenuAndOk 0

/-- What a scan does with the ring. -/
inductive FifoOp
  | clear
  | put (keyCode : U8)
deriving DecidableEq, Repr

/-- An optional code is put unless it is 0. -/
def putNonzero (keyCode : U8) : List FifoOp := if keyCode > 0 then [.put keyCode] else []

/-- The filter on the way up, and what comes behind it. -/
def BtnVar.countUp (btn : BtnVar) (reached : BtnVar × List FifoOp) : BtnVar × List FifoOp :=
  if btn.count < btn.filterTime then ({ btn with count := btn.filterTime }, [])
  else if btn.count < 2 * btn.filterTime then ({ btn with count := btn.count + 1 }, [])
  else reached

def BtnVar.countDown (btn : BtnVar) (reached : BtnVar × List FifoOp) : BtnVar × List FifoOp :=
  if btn.count > btn.filterTime then ({ btn with count := btn.filterTime }, [])
  else if btn.count ≠ 0 then ({ btn with count := btn.count - 1 }, [])
  else reached

/-- What is put when all of a button has been debounced as pressed. -/
def BtnVar.downOps (btn : BtnVar) : List FifoOp :=
  match btn.state with
  | .allUp =>
      if btn.keyCodeDown > 0 then
        if btn.keyCodeDown = keyDownMenuAndOk then [.clear, .put btn.keyCodeDown]
        else [.put btn.keyCodeDown]
      else []
  | .firstDown => putNonzero btn.keyCodeCombPrime12
  | .secondDown => putNonzero btn.keyCodeCombPrime21
  | .allDown => []

/-- The long press; this code is put even if it is 0. -/
def BtnVar.longPress (btn : BtnVar) : BtnVar × List FifoOp :=
  if btn.longTime > 0 ∧ btn.longCount < btn.longTime then
    ({ btn with longCount := btn.longCount + 1 },
      if btn.longCount + 1 = btn.longTime then [.put btn.keyCodeLong] else [])
  else (btn, [])

def detectButton (stat : KeyStat) (btn : BtnVar) : BtnVar × List FifoOp :=
  match stat with
  | .allUp =>
      if btn.state ≠ .allUp then
        btn.countDown ({ btn with longCount := 0, state := .allUp }, putNonzero btn.keyCodeUp)
      else (btn, [])
  | .allDown =>
      if btn.state ≠ .allDown then btn.countUp ({ btn with state := .allDown }, btn.downOps)
      else btn.longPress
  | .firstDown =>
      if btn.state = .allUp then btn.countUp ({ btn with state := .firstDown }, [])
      else if btn.state = .allDown then btn.countDown ({ btn with state := .firstDown }, [])
      else (btn, [])
  | .secondDown =>
      if btn.state = .allUp then btn.countUp ({ btn with state := .secondDown }, [])
      else if btn.state = .allDown then btn.countDown ({ btn with state := .secondDown }, [])
      else (btn, [])

end Buttons

section Scan

/-- The static variables of the file; `flag` belongs to `KeyPro`. -/
structure KeyPad where
  flag : Bool
  button : ButtonName → BtnVar
  key : KeyFifo

def KeyPad.cleared : KeyPad := ⟨false, fun _ => .cleared, ⟨fun _ => 0, 0, 0⟩⟩

def initButton (pad : KeyPad) : KeyPad where
  flag := true
  button name := initButtonVar (pad.button name) name
  key := pad.key.clear

def KeyFifo.perform (fifo : KeyFifo) : FifoOp → KeyFifo
  | .clear => fifo.clear
  | .put keyCode => putKey keyCode fifo

def ButtonName.all : List ButtonName := [.up, .down, .ok, .menu, .menuUp, .menuDown, .menuOk]

/-- The first call of `KeyPro` sets the buttons up. -/
def KeyPad.started (pad : KeyPad) : KeyPad := if pad.flag then pad else initButton pad

/-- What the scan of one button does with the ring. -/
def KeyPad.ops (pad : KeyPad) (pins : Pins) (name : ButtonName) : List FifoOp :=
  (detectButton (name.isKeyDownFunc pins) (pad.button name)).2

/-- The buttons share nothing but the ring, so that each is scanned as if it were alone. -/
def keyPro (pins : Pins) (pad : KeyPad) : KeyPad :=
  let started := pad.started
  { started with
    button := fun name => (detectButton (name.isKeyDownFunc pins) (started.button name)).1
    key := (ButtonName.all.flatMap (started.ops pins)).foldl KeyFifo.perform started.key }

end Scan

end ZhuoduControl.Drivers.Button
