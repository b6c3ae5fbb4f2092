import ZhuoduControl.Library.DecimalText
import ZhuoduControl.Library.DottedPath
import ZhuoduControl.Library.Memory
import ZhuoduControl.Library.Run

/-! The menu frame: the list that is shown, its cursor, the two stacks and the keys
that move them. -/

set_option autoImplicit false

namespace ZhuoduControl.Menu.Frame

open ZhuoduControl.Library

def stageMax : Nat := 5
def indexMax : Nat := 30
def menuMax : Nat := 70
def lineMax : Nat := 4

/-- The codes of `KEY_ENUM` that the frame and the pages compare with. -/
inductive KeyCode
  | none
  | downUp
  | downDown
  | downMenu
  | downOk
  | downMenuAndOk
  | other
deriving DecidableEq, Repr

/-- An index string; `strncpy` copies it together with its terminator. -/
structure IndexText where
  chars : List Char
  short : chars.length ≤ 16
deriving DecidableEq

/-- `MenuTreeDef` without its titles. -/
structure MenuTree (Func : Type) where
  pIndex : IndexText
  pFunc : Option Func

/-- The rows of the menu; `none` is a row whose `pIndex` is `NULL`. -/
abbrev Table (Func : Type) := Nat → Option (MenuTree Func)

variable {Func : Type}

def indexOf (table : Table Func) (pointer : Option Nat) : Option IndexText :=
  (pointer.bind table).map MenuTree.pIndex

def funcOf (table : Table Func) (pointer : Option Nat) : Option Func :=
  (pointer.bind table).bind MenuTree.pFunc

/-- `STATUS_EXCEPTION` is never assigned. -/
inductive MenuStatus
  | node
  | leaf
deriving DecidableEq, Repr

end Frame

open ZhuoduControl.Menu.Frame ZhuoduControl.Library

/-- The statics of the frame; a pointer into the menu is the number of its row. The
stacks have their top first. -/
structure Frame (Func : Type) where
  menuStatus : MenuStatus
  currIndex : Nat
  currLine : Nat
  nSubNode : Nat
  indexPtrStack : List (Option Nat)
  lineStack : List Nat
  currNodeList : Memory (Option Nat)
  psMenuCurr : Option Nat
  reload : Bool
  /-- `none` is `dummy` -/
  virtualFunc : Option Func

namespace Frame

variable {Func : Type} (table : Table Func)

/-- `push_index` and `push_line`: a full stack stays as it is. -/
def push {Entry : Type} (entry : Entry) (stack : List Entry) : List Entry :=
  if stack.length < stageMax then entry :: stack else stack

def jump2func (pFunc : Option Func) (frame : Frame Func) : Frame Func :=
  match pFunc with
  | some func => { frame with virtualFunc := some func, reload := true }
  | none => { frame with reload := false }

/-- The text behind the last dot, or behind the first character if there is no dot. -/
def lastPart (text : List Char) : List Char :=
  (DottedPath.afterLast '.' text).getD text.tail

/-- The text cut behind its last dot, or behind its first character. -/
def parentPart (text : List Char) : List Char :=
  text.take (text.length - (lastPart text).length)

/-- The low byte of the scanned number; the local keeps its old byte if the scan fails. -/
def scanByte (old : Nat) (text : List Char) : Nat :=
  match DecimalText.scanInt 3 text with
  | some number => (number % 256).toNat
  | none => old % 256

/-- `get_curr_index`; its local starts with the byte `uninit`. -/
def getCurrIndex (uninit : Nat) (text : List Char) : Nat :=
  scanByte uninit (lastPart text)

/-- The variables of the loop in `update_node_list`. -/
structure NodeScan where
  num1 : Nat
  nSubNode : Nat
  currNodeList : Memory (Option Nat)

def scanRow (path : List Char) (scan : NodeScan) (position : Nat) : NodeScan :=
  match table position with
  | none => scan
  | some row =>
      if DottedPath.StartsLevel '.' path row.pIndex.chars then
        let num1 := scanByte scan.num1 (row.pIndex.chars.drop path.length)
        ⟨num1, (scan.nSubNode + 1) % 256, scan.currNodeList.set num1 (some position)⟩
      else scan

/-- `update_node_list` with its return value. -/
def updateNodeList (uninit : Nat) (path : List Char) (frame : Frame Func) : Frame Func × Bool :=
  let scan := (List.range menuMax).foldl (scanRow table path) ⟨uninit, 0, frame.currNodeList⟩
  if scan.nSubNode = 0 then ({ frame with currNodeList := scan.currNodeList }, false)
  else ({ frame with currNodeList := scan.currNodeList, nSubNode := scan.nSubNode }, true)

/-- The part of `jump2menu` behind a successful `update_node_list`. -/
def enterList (frame : Frame Func) : Frame Func :=
  { frame with
    indexPtrStack := push frame.psMenuCurr frame.indexPtrStack
    currIndex := 0
    lineStack := push frame.currLine frame.lineStack
    currLine := 0
    psMenuCurr := frame.currNodeList 0 }

/-- `jump2menu`; `none` is the argument `NULL`. It fails where `NULL` is read. -/
def jump2menu (uninit : Nat) (target : Option IndexText) (frame : Frame Func) :
    Option (Frame Func) :=
  (target.or (indexOf table frame.psMenuCurr)).map fun text =>
    let opened : Frame Func := { frame with menuStatus := .node, reload := false }
    let (updated, updateFlag) := updateNodeList table uninit (text.chars ++ ['.']) opened
    if updateFlag then updated.enterList else updated

def menuDefault (uninit : Nat) (frame : Frame Func) : Option (Frame Func) :=
  jump2menu table uninit none frame

def menuBack (uninit : Nat) (frame : Frame Func) : Option (Frame Func) :=
  match frame.indexPtrStack with
  | [] => some frame
  | top :: below =>
      (indexOf table top).map fun text =>
        let popped : Frame Func :=
          { frame with
            psMenuCurr := top
            indexPtrStack := below
            currLine := frame.lineStack.headD 0
            lineStack := frame.lineStack.tail
            currIndex := getCurrIndex uninit text.chars }
        if text.chars = ['0'] then
          { popped with
            menuStatus := .leaf
            currNodeList := popped.currNodeList.set 0 top
            nSubNode := 1 }
        else (updateNodeList table uninit (parentPart text.chars) popped).1

/-- `leaf_exit`; every caller passes `NULL` as the hook. -/
def leafExit (frame : Frame Func) : Frame Func :=
  { frame with menuStatus := .node, reload := false }

def keyUp (frame : Frame Func) : Frame Func :=
  if frame.currIndex = 0 ∧ frame.currLine = 0 then
    let last := (frame.nSubNode + 255) % 256
    { frame with
      currIndex := last
      currLine := if frame.nSubNode < 4 then last else lineMax - 1
      psMenuCurr := frame.currNodeList last }
  else
    let above := (frame.currIndex + 255) % 256
    { frame with
      currIndex := above
      currLine := frame.currLine - 1
      psMenuCurr := frame.currNodeList above }

def keyDown (frame : Frame Func) : Frame Func :=
  if frame.currIndex + 1 = frame.nSubNode then
    { frame with currIndex := 0, currLine := 0, psMenuCurr := frame.currNodeList 0 }
  else
    let below := if frame.currIndex + 1 < frame.nSubNode then frame.currIndex + 1
      else frame.currIndex
    { frame with
      currIndex := below
      currLine := if frame.currLine + 1 < lineMax ∧ frame.currLine + 1 < frame.nSubNode then
        frame.currLine + 1 else frame.currLine
      psMenuCurr := frame.currNodeList below }

def keyOk (uninit : Nat) (frame : Frame Func) : Option (Frame Func) :=
  if frame.psMenuCurr = none then none
  else if (funcOf table frame.psMenuCurr).isSome ∧ frame.indexPtrStack ≠ [] then
    some { frame with menuStatus := .leaf }
  else menuDefault table uninit frame

def nodeProc (uninit : Nat) (msg : KeyCode) (frame : Frame Func) : Option (Frame Func) :=
  match msg with
  | .downUp => some frame.keyUp
  | .downDown => some frame.keyDown
  | .downOk => keyOk table uninit frame
  | .downMenu => menuBack table uninit frame
  | _ => some frame

/-- `menu_var_init` of a menu. -/
def menuVarInit : Frame Func where
  menuStatus := .leaf
  currIndex := 0
  currLine := 0
  nSubNode := 0
  indexPtrStack := []
  lineStack := []
  currNodeList := fun _ => none
  psMenuCurr := (List.range menuMax).find? fun position =>
    (indexOf table (some position)).any fun text => text.chars = ['0']
  reload := false
  virtualFunc := none

/-- What a page function can call. -/
inductive Call (Func : Type)
  | leafExit
  | jump2menu (target : Option IndexText)
  | jump2func (pFunc : Option Func)

def leafCall (uninit : Nat) (frame : Frame Func) : Call Func → Option (Frame Func)
  | .leafExit => some frame.leafExit
  | .jump2menu target => jump2menu table uninit target frame
  | .jump2func pFunc => some (frame.jump2func pFunc)

/-- One pass of the menu thread: its key, what the page calls if a page is shown, and the
byte that an unassigned local holds. -/
structure Pass (Func : Type) where
  key : KeyCode
  calls : List (Call Func)
  uninit : Nat

def menuMain (frame : Frame Func) (pass : Pass Func) : Option (Frame Func) :=
  match frame.menuStatus with
  | .leaf => Run.run (leafCall table pass.uninit) frame pass.calls
  | .node => nodeProc table pass.uninit pass.key frame

/-- One line of the screen: the row whose title is drawn there, and the colours. -/
structure ScreenLine where
  title : Option Int
  reverse : Bool
deriving DecidableEq, Repr

/-- `disp_node` while a list is shown. -/
def dispNode (frame : Frame Func) : List ScreenLine :=
  (List.range lineMax).map fun line =>
    { title := if line < frame.nSubNode then
        frame.psMenuCurr.map fun pointer : Nat => (pointer : Int) + (line - frame.currLine)
      else none
      reverse := line = frame.currLine }

end Frame

end ZhuoduControl.Menu
