import ZhuoduControl.Menu.CommitProperties
import ZhuoduControl.Menu.NumberBox

/-! The pages that edit number boxes, each with its states, its keys and its focus. -/

set_option autoImplicit false

namespace ZhuoduControl.Menu.BoxPages

open ZhuoduControl.Library
open ZhuoduControl.Library.DecimalText
open ZhuoduControl.Data
open ZhuoduControl.Menu
open ZhuoduControl.Menu.Box
open ZhuoduControl.Menu.Frame

inductive BoxPage
  | coeffAB
  | signal
  | canbiZhuodu
  | zeroCali
  | fullCali
  | linearCali
deriving DecidableEq, Repr

inductive BoxButton
  | btnSet
  | btnConfirm
deriving DecidableEq, Repr

inductive PageItem
  | box (index : Nat)
  | btn (button : BoxButton)
deriving DecidableEq, Repr

/-- The statics of a page. The first box of a page is box 0. -/
structure BoxPageStatics where
  setStat : Nat
  currSelect : Nat
  box : Nat → NumberBox
  status : BoxButton → BoxStat

/-- A page as the startup code leaves it. -/
def blankPage : BoxPageStatics where
  setStat := 0
  currSelect := 0
  box _ := ⟨⟨0, 0, 0, 0, .integer, 0, 0⟩, false, false, .unfocused, 0, 0, 0, fun _ => 0⟩
  status _ := .unfocused

/-- What a call finds: `uninit` is what `retVal` holds when a box is edited. -/
structure PageInput where
  msg : KeyCode
  uninit : Nat → Number
  zhuodu : Zhuodu

/-- A call that has got so far: `exits` has the statics at each `leaf_exit`. -/
structure PagePass where
  statics : BoxPageStatics
  ops : List MenuOp
  exits : List BoxPageStatics

/-- How the `switch` of a page ends. -/
inductive Flow
  | returns (pass : PagePass)
  | breaks (pass : PagePass)

namespace BoxPageStatics

def stat (statics : BoxPageStatics) : PageItem → BoxStat
  | .box index => (statics.box index).boxStat
  | .btn button => statics.status button

def goTo (setStat : Nat) (statics : BoxPageStatics) : BoxPageStatics :=
  { statics with setStat := setStat }

def put (item : PageItem) (stat : BoxStat) (statics : BoxPageStatics) : BoxPageStatics :=
  match item with
  | .box index =>
      { statics with
        box := Function.update statics.box index { statics.box index with boxStat := stat } }
  | .btn button => { statics with status := Function.update statics.status button stat }

/-- The assignments before the statics are left: state 0, and nothing has the focus. -/
def reset (items : List PageItem) (statics : BoxPageStatics) : BoxPageStatics :=
  items.foldl (fun left item => left.put item .unfocused) (statics.goTo 0)

def stay (statics : BoxPageStatics) : PagePass := ⟨statics, [], []⟩

def leafExit (ops : List MenuOp) (statics : BoxPageStatics) : PagePass := ⟨statics, ops, [statics]⟩

/-- `set_number_box` over the first `count` boxes. -/
def editBoxes (clib : Clib) (input : PageInput) (count : Nat) (statics : BoxPageStatics) :
    BoxPageStatics :=
  { statics with
    box := fun index =>
      if index < count then (statics.box index).edit clib input.msg (input.uninit index)
      else statics.box index }

/-- The first call sets up the boxes and reads their numbers, as far as there are any. -/
def firstCall (configs : List BoxConfig) (stat : BoxStat) (numbers : Nat → Option U32)
    (statics : BoxPageStatics) : BoxPageStatics :=
  { statics with
    setStat := 1
    status := fun _ => .unfocused
    box := fun index =>
      match configs[index]? with
      | none => statics.box index
      | some config =>
          let placed : NumberBox :=
            { statics.box index with
              toBoxConfig := config, boxStat := stat, setIndex := 0, isShow := true }
          match numbers index, config.dataType with
          | none, _ => placed
          | some bits, .integer => { placed with setInteger := bits }
          | some bits, .float => { placed with setFloat := bits } }

end BoxPageStatics

def PagePass.change (change : BoxPageStatics → BoxPageStatics) (pass : PagePass) : PagePass :=
  { pass with statics := change pass.statics }

def Flow.finish (tail : PagePass → PagePass) : Flow → PagePass
  | .returns pass => pass
  | .breaks pass => tail pass

/-- `btn_proc`; a button without a `btn_event` does nothing. -/
def btnProc (msg : KeyCode) (status : BoxStat) (btnEvent : List MenuOp) : List MenuOp :=
  if status = .focused ∧ msg = .downOk then btnEvent else []

section Numbers

variable (zhuodu : Zhuodu)

def pointBits (field : Field) : U32 :=
  Word.join (zhuodu (field.offset + 1)) (zhuodu field.offset)

def halfBits (field : Field) : U32 := (zhuodu field.offset).signExtend 32

def coeffABNumbers (index : Nat) : Option U32 :=
  match rangeSel zhuodu, index with
  | 0, 0 => some (pointBits zhuodu .a1)
  | 0, 1 => some (pointBits zhuodu .b1)
  | 1, 0 => some (pointBits zhuodu .a2)
  | 1, 1 => some (pointBits zhuodu .b2)
  | 2, 0 => some (pointBits zhuodu .a3)
  | 2, 1 => some (pointBits zhuodu .b3)
  | 3, 0 => some (pointBits zhuodu .a4)
  | 3, 1 => some (pointBits zhuodu .b4)
  | _, _ => none

def signalNumbers (index : Nat) : Option U32 :=
  match index with
  | 0 => some (halfBits zhuodu .canbiSet)
  | 1 => some (halfBits zhuodu .brightRange)
  | _ => none

/-- Box `2j` starts with turbidity `j`, box `2j + 1` with absorbance `j`. -/
def linearCaliNumbers (index : Nat) : Option U32 :=
  match index with
  | 0 => some (pointBits zhuodu (.turbidimeterCaliBuf 0))
  | 1 => some (pointBits zhuodu (.absorbanceCaliBuf 0))
  | 2 => some (pointBits zhuodu (.turbidimeterCaliBuf 1))
  | 3 => some (pointBits zhuodu (.absorbanceCaliBuf 1))
  | 4 => some (pointBits zhuodu (.turbidimeterCaliBuf 2))
  | 5 => some (pointBits zhuodu (.absorbanceCaliBuf 2))
  | 6 => some (pointBits zhuodu (.turbidimeterCaliBuf 3))
  | 7 => some (pointBits zhuodu (.absorbanceCaliBuf 3))
  | _ => none

/-- What `global` has for the boxes of a page. -/
def BoxPage.numbers : BoxPage → Nat → Option U32
  | .coeffAB, index => coeffABNumbers zhuodu index
  | .signal, index => signalNumbers zhuodu index
  | .canbiZhuodu, index => if index = 0 then some (pointBits zhuodu .a1k1) else none
  | .zeroCali, index => if index = 0 then some (halfBits zhuodu .canbiSet) else none
  | .fullCali, index => if index = 0 then some (pointBits zhuodu .turbidimeter) else none
  | .linearCali, index => linearCaliNumbers zhuodu index

end Numbers

def BoxPage.configs : BoxPage → List BoxConfig
  | .coeffAB => coeffABBoxes
  | .signal => signalBoxes
  | .canbiZhuodu => [canbiZhuoduBox]
  | .zeroCali => [zeroCaliBox]
  | .fullCali => [fullCaliBox]
  | .linearCali => (List.finRange 8).map linearCaliBox

section Pages

open BoxPageStatics

variable (clib : Clib) (input : PageInput) (statics : BoxPageStatics)

def BoxPage.enter (page : BoxPage) (stat : BoxStat) : PagePass :=
  (statics.firstCall page.configs stat (page.numbers input.zhuodu)).stay

/-- The two boxes and the button of a page. -/
def twoBoxes : List PageItem := [.box 0, .box 1, .btn .btnConfirm]

/-- In the second case the test for `KEY_DOWN_MENU` is under the one for `KEY_DOWN_DOWN`. -/
def coeffABSwitch : Flow :=
  match statics.setStat with
  | 0 => .returns (BoxPage.coeffAB.enter input statics .unfocused)
  | 1 =>
      if input.msg = .downMenu then .breaks ((statics.goTo 0).leafExit [])
      else if input.msg = .downDown ∨ input.msg = .downUp then
        .returns ((statics.goTo 2).put (.box 0) .focused).stay
      else .breaks statics.stay
  | 2 =>
      if statics.stat (.box 0) = .focused ∧ input.msg = .downDown then
        .returns (((statics.goTo 3).put (.box 0) .unfocused).put (.box 1) .focused).stay
      else .breaks statics.stay
  | 3 =>
      if statics.stat (.box 1) = .focused then
        if input.msg = .downDown then
          .returns
            (((statics.goTo 4).put (.box 1) .unfocused).put (.btn .btnConfirm) .focused).stay
        else if input.msg = .downMenu then .breaks ((statics.reset twoBoxes).leafExit [])
        else .breaks statics.stay
      else .breaks statics.stay
  | 4 =>
      if input.msg = .downMenu then .breaks ((statics.reset twoBoxes).leafExit [])
      else if input.msg = .downOk then
        .breaks ((statics.reset twoBoxes).leafExit
          ((Commit.coeffAB (statics.box 0).setFloat (statics.box 1).setFloat).ops input.zhuodu))
      else .breaks statics.stay
  | _ => .breaks statics.stay

/-- Next to the prompt of one box the other is hidden. -/
def coeffABShow (statics : BoxPageStatics) : BoxPageStatics :=
  let show0 := Function.update statics.box 0
  let show1 := Function.update statics.box 1
  if statics.stat (.box 0) = .saving then
    { statics with box := show1 { statics.box 1 with isShow := false } }
  else if statics.stat (.box 1) = .saving then
    { statics with box := show0 { statics.box 0 with isShow := false } }
  else
    { statics with
      box := Function.update (show0 { statics.box 0 with isShow := true }) 1
        { statics.box 1 with isShow := true } }

def menuCoeffABSetup : PagePass :=
  (coeffABSwitch input statics).finish fun pass =>
    pass.change fun left => coeffABShow (left.editBoxes clib input 2)

def signalCaseThree : Flow :=
  if statics.stat (.box 1) = .focused then
    if input.msg = .downDown then
      .returns
        (((statics.goTo 4).put (.box 1) .unfocused).put (.btn .btnConfirm) .focused).stay
    else if input.msg = .downMenu then .breaks ((statics.reset twoBoxes).leafExit [])
    else .breaks statics.stay
  else .breaks statics.stay

/-- The second case falls into the third; after `leaf_exit` box 1 has no focus there. -/
def signalSwitch : Flow :=
  match statics.setStat with
  | 0 => .returns (BoxPage.signal.enter input statics .unfocused)
  | 1 =>
      if input.msg = .downMenu then .breaks ((statics.goTo 0).leafExit [])
      else if input.msg = .downDown ∨ input.msg = .downUp then
        .returns ((statics.goTo 2).put (.box 0) .focused).stay
      else .breaks statics.stay
  | 2 =>
      if statics.stat (.box 0) = .focused ∧ input.msg = .downDown then
        .returns (((statics.goTo 3).put (.box 0) .unfocused).put (.box 1) .focused).stay
      else if input.msg = .downMenu then
        .breaks ((statics.reset [.box 0, .box 1]).leafExit [])
      else signalCaseThree input statics
  | 3 => signalCaseThree input statics
  | 4 =>
      if input.msg = .downMenu then .breaks ((statics.reset twoBoxes).leafExit [])
      else if input.msg = .downOk then
        .breaks ((statics.reset twoBoxes).leafExit
          ((Commit.signalSetup (statics.box 0).setInteger (statics.box 1).setInteger).ops
            input.zhuodu))
      else .breaks statics.stay
  | _ => .breaks statics.stay

def menuSignalSetup : PagePass :=
  (signalSwitch input statics).finish fun pass =>
    pass.change fun left => left.editBoxes clib input 2

/-- The page leaves as soon as its box is not edited any more, its box keeps the focus. -/
def menuCanbiZhuodu : PagePass :=
  if statics.setStat = 0 then BoxPage.canbiZhuodu.enter input statics .focused
  else
    let edited := statics.editBoxes clib input 1
    if input.msg = .downMenu ∧ edited.stat (.box 0) = .focused then
      (edited.goTo 0).leafExit ((Commit.canbiZhuodu (edited.box 0).setFloat).ops input.zhuodu)
    else edited.stay

/-- The last case falls into `default`. -/
def zeroCaliSwitch : Flow :=
  match statics.setStat with
  | 0 => .returns (BoxPage.zeroCali.enter input statics .unfocused)
  | 1 =>
      if input.msg = .downMenu then .breaks ((statics.goTo 0).leafExit [])
      else if input.msg = .downDown ∨ input.msg = .downUp then
        .returns ((statics.goTo 2).put (.box 0) .focused).stay
      else .breaks statics.stay
  | 2 =>
      if statics.stat (.box 0) = .focused ∧ input.msg = .downDown then
        .returns (((statics.goTo 3).put (.box 0) .unfocused).put (.btn .btnSet) .focused).stay
      else if statics.stat (.box 0) = .focused ∧ input.msg = .downMenu then
        .returns ((statics.reset [.box 0, .btn .btnSet, .btn .btnConfirm]).leafExit [])
      else .breaks statics.stay
  | 3 =>
      if input.msg = .downOk then
        let left := ((statics.goTo 4).put (.btn .btnSet) .unfocused).put (.btn .btnConfirm) .focused
        .returns ⟨left, btnProc input.msg (statics.stat (.btn .btnSet))
          ((Commit.zeroCaliSet (statics.box 0).setInteger).ops input.zhuodu), []⟩
      else if input.msg = .downMenu then
        .breaks ((statics.reset [.btn .btnSet, .btn .btnConfirm]).leafExit [])
      else .breaks statics.stay
  | 4 =>
      if input.msg = .downOk then
        .returns ((statics.reset [.btn .btnConfirm]).leafExit
          (btnProc input.msg (statics.stat (.btn .btnConfirm))
            (Commit.zeroCaliConfirm.ops input.zhuodu)))
      else if input.msg = .downMenu then
        .breaks ((statics.reset [.btn .btnSet, .btn .btnConfirm]).leafExit [])
      else .breaks statics.stay
  | _ => .breaks statics.stay

def menuZeroCali : PagePass :=
  (zeroCaliSwitch input statics).finish fun pass =>
    let edited := pass.statics.editBoxes clib input 1
    let set := btnProc input.msg (edited.stat (.btn .btnSet))
      ((Commit.zeroCaliSet (edited.box 0).setInteger).ops input.zhuodu)
    let confirm := btnProc input.msg (edited.stat (.btn .btnConfirm))
      (Commit.zeroCaliConfirm.ops input.zhuodu)
    { pass with statics := edited, ops := pass.ops ++ set ++ confirm }

/-- The last case falls into `default`. -/
def fullCaliSwitch : Flow :=
  match statics.setStat with
  | 0 => .returns (BoxPage.fullCali.enter input statics .focused)
  | 1 =>
      if input.msg = .downMenu ∧ statics.stat (.box 0) = .focused then
        .breaks ((statics.reset [.box 0]).leafExit [])
      else if (input.msg = .downDown ∨ input.msg = .downUp) ∧ statics.stat (.box 0) = .focused then
        .returns (((statics.goTo 2).put (.box 0) .unfocused).put (.btn .btnConfirm) .focused).stay
      else .breaks statics.stay
  | 2 =>
      if input.msg = .downOk then
        .returns ((statics.reset [.btn .btnConfirm]).leafExit
          (btnProc input.msg (statics.stat (.btn .btnConfirm))
            ((Commit.fullCali (statics.box 0).setFloat).ops input.zhuodu)))
      else if input.msg = .downMenu then
        .breaks ((statics.reset [.btn .btnConfirm]).leafExit [])
      else .breaks statics.stay
  | _ => .breaks statics.stay

def menuFullCali : PagePass :=
  (fullCaliSwitch input statics).finish fun pass =>
    let edited := pass.statics.editBoxes clib input 1
    let confirm := btnProc input.msg (edited.stat (.btn .btnConfirm))
      ((Commit.fullCali (edited.box 0).setFloat).ops input.zhuodu)
    { pass with statics := edited, ops := pass.ops ++ confirm }

/-- The focus goes from the selected box to another. -/
def select (target : Nat) (statics : BoxPageStatics) : BoxPageStatics :=
  { statics.put (.box statics.currSelect) .unfocused with currSelect := target }.put
    (.box target) .focused

def linearCaliCaseTwo (exits : List BoxPageStatics) (statics : BoxPageStatics) : Flow :=
  if input.msg = .downDown ∧ statics.stat (.box statics.currSelect) = .focused then
    if statics.currSelect < 7 then .returns ⟨select (statics.currSelect + 1) statics, [], exits⟩
    else .returns ⟨statics, [], exits⟩
  else if input.msg = .downUp ∧ statics.stat (.box statics.currSelect) = .focused then
    if 0 < statics.currSelect then .returns ⟨select (statics.currSelect - 1) statics, [], exits⟩
    else .returns ⟨statics, [], exits⟩
  else if statics.stat (.box statics.currSelect) = .focused ∧ input.msg = .downMenu then
    let left := { statics.reset ((List.range 8).map .box) with currSelect := 0 }
    .breaks ⟨left, (Commit.linearCali fun index => (statics.box index).setFloat).ops input.zhuodu,
      exits ++ [left]⟩
  else .breaks ⟨statics, [], exits⟩

/-- The first case falls into the second, unless it moves the focus. -/
def linearCaliSwitch : Flow :=
  match statics.setStat with
  | 0 => .returns (BoxPage.linearCali.enter input statics .unfocused)
  | 1 =>
      if input.msg = .downMenu then linearCaliCaseTwo input [statics.goTo 0] (statics.goTo 0)
      else if input.msg = .downDown ∨ input.msg = .downUp then
        .returns ({ statics.goTo 2 with currSelect := 0 }.put (.box 0) .focused).stay
      else linearCaliCaseTwo input [] statics
  | 2 => linearCaliCaseTwo input [] statics
  | _ => .returns ((statics.goTo 0).leafExit [])

/-- One half of the boxes is shown. The places of the others wrap in their 8 bits. -/
def linearCaliPlace (currSelect index : Nat) (box : NumberBox) : NumberBox :=
  if currSelect < 4 then
    if index < 4 then { box with y := index * 16, isShow := true }
    else { box with y := (index - 4) * 16, isShow := false }
  else if index < 4 then { box with y := (index * 16 + 192) % 256, isShow := false }
  else { box with y := (index - 4) * 16, isShow := true }

/-- The box that gives way to the prompt of another. -/
def linearCaliHidden (saving : Nat) : Nat :=
  match saving with
  | 2 => 1
  | 4 => 6
  | 5 => 6
  | 6 => 5
  | 7 => 6
  | _ => 2

def linearCaliShow (statics : BoxPageStatics) : BoxPageStatics :=
  let placed : BoxPageStatics :=
    { statics with
      box := fun index =>
        if index < 8 then linearCaliPlace statics.currSelect index (statics.box index)
        else statics.box index }
  match (List.range 8).find? fun index => placed.stat (.box index) = .saving with
  | none => placed
  | some saving =>
      { placed with
        box := Function.update placed.box (linearCaliHidden saving)
          { placed.box (linearCaliHidden saving) with isShow := false } }

def menuLinearCali : PagePass :=
  (linearCaliSwitch input statics).finish fun pass =>
    pass.change fun left => (linearCaliShow left).editBoxes clib input 8

def BoxPage.call : BoxPage → PagePass
  | .coeffAB => menuCoeffABSetup clib input statics
  | .signal => menuSignalSetup clib input statics
  | .canbiZhuodu => menuCanbiZhuodu clib input statics
  | .zeroCali => menuZeroCali clib input statics
  | .fullCali => menuFullCali clib input statics
  | .linearCali => menuLinearCali clib input statics

end Pages

def pageStep (clib : Clib) (page : BoxPage) (statics : BoxPageStatics) (input : PageInput) :
    Option BoxPageStatics :=
  some (page.call clib input statics).statics

end ZhuoduControl.Menu.BoxPages
