import ZhuoduControl.Data.Zhuodu
import ZhuoduControl.Modbus.Message

/-! What each settings page does when its value is confirmed: the assignments to
`zhuodu_data` and the messages, in the order of the source. -/

set_option autoImplicit false

namespace ZhuoduControl.Menu

open ZhuoduControl.Data
open ZhuoduControl.Modbus

inductive MenuOp
  /-- an assignment made before the operator has confirmed anything -/
  | repair (setting : Setting)
  | assign (setting : Setting)
  | send (msg : ModbusMsg)
deriving DecidableEq, Repr

def rangeSel (zhuodu : Zhuodu) : Nat :=
  (zhuodu (Field.offset .rangeSel)).toNat

def numCali (zhuodu : Zhuodu) : Nat :=
  (zhuodu (Field.offset .numCali)).toNat

/-- No case assigns `mb_addr` for a range above 3; it then holds `stale`. The value
is the `double` of the editor converted to `float`, in both places alike. -/
def menuRangeSetup (zhuodu : Zhuodu) (stale : U16) (retVal : U32) : List MenuOp :=
  match rangeSel zhuodu with
  | 0 => [.assign ⟨.segRange1, .float retVal, rfl⟩, .send (floatMsg 281 retVal)]
  | 1 => [.assign ⟨.segRange2, .float retVal, rfl⟩, .send (floatMsg 283 retVal)]
  | 2 => [.assign ⟨.segRange3, .float retVal, rfl⟩, .send (floatMsg 530 retVal)]
  | 3 => [.assign ⟨.segRange4, .float retVal, rfl⟩, .send (floatMsg 532 retVal)]
  | _ => [.send (floatMsg stale retVal)]

def menuRangeSelect (retVal : U8) : List MenuOp :=
  let word := retVal.zeroExtend 16
  [.assign ⟨.rangeSel, .half word, rfl⟩, .send (wordMsg 285 word)]

def menuCoeffAB (zhuodu : Zhuodu) (numberBox numberBox2 : U32) : List MenuOp :=
  match rangeSel zhuodu with
  | 0 =>
      [.assign ⟨.a1, .float numberBox, rfl⟩, .assign ⟨.b1, .float numberBox2, rfl⟩,
        .send (floatMsg 267 numberBox), .send (floatMsg 269 numberBox2)]
  | 1 =>
      [.assign ⟨.a2, .float numberBox, rfl⟩, .assign ⟨.b2, .float numberBox2, rfl⟩,
        .send (floatMsg 271 numberBox), .send (floatMsg 273 numberBox2)]
  | 2 =>
      [.assign ⟨.a3, .float numberBox, rfl⟩, .assign ⟨.b3, .float numberBox2, rfl⟩,
        .send (floatMsg 275 numberBox), .send (floatMsg 277 numberBox2)]
  | 3 =>
      [.assign ⟨.a4, .float numberBox, rfl⟩, .assign ⟨.b4, .float numberBox2, rfl⟩,
        .send (floatMsg 534 numberBox), .send (floatMsg 536 numberBox2)]
  | _ => []

/-- The dark-current command of the two wide ranges, which two pages send. -/
def darkCommand (zhuodu : Zhuodu) : List MenuOp :=
  match rangeSel zhuodu with
  | 2 => [.send (wordMsg 538 1)]
  | 3 => [.send (wordMsg 539 1)]
  | _ => []

/-- `set_integer` is cut to 16 bits by both conversions. -/
def menuSignalSetup (zhuodu : Zhuodu) (numberBox numberBox2 : U32) : List MenuOp :=
  [.assign ⟨.canbiSet, .half (Word.lowWord numberBox), rfl⟩,
    .send (wordMsg 256 (Word.lowWord numberBox)),
    .assign ⟨.brightRange, .half (Word.lowWord numberBox2), rfl⟩,
    .send (wordMsg 259 (Word.lowWord numberBox2))] ++ darkCommand zhuodu

def menuCanbiZhuodu (numberBox : U32) : List MenuOp :=
  [.assign ⟨.a1k1, .float numberBox, rfl⟩, .send (floatMsg 279 numberBox)]

/-- The assignment follows the range, the address does not. -/
def menuZeroCompensate (zhuodu : Zhuodu) (retVal : U32) : List MenuOp :=
  let assigned : List MenuOp :=
    match rangeSel zhuodu with
    | 0 => [.assign ⟨.b1, .float retVal, rfl⟩]
    | 1 => [.assign ⟨.b2, .float retVal, rfl⟩]
    | 2 => [.assign ⟨.b3, .float retVal, rfl⟩]
    | 3 => [.assign ⟨.b4, .float retVal, rfl⟩]
    | _ => []
  assigned ++ [.send (floatMsg 269 retVal)]

theorem numCali_half (word : U16) : (Value.half word).width = Field.numCali.width := rfl

/-- Every call of the page first lifts `num_cali` to 2. -/
def menuLinearCaliPoint (zhuodu : Zhuodu) (retVal : U8) : List MenuOp :=
  let repaired : List MenuOp :=
    if numCali zhuodu < 2 then [.repair ⟨.numCali, .half 2, numCali_half 2⟩] else []
  let word := retVal.zeroExtend 16 + 2
  repaired ++ [.send (wordMsg 291 word), .assign ⟨.numCali, .half word, numCali_half word⟩]

/-- The button `设置` of `menu_zero_cali`. -/
def btnSetEvent (setInteger : U32) : List MenuOp :=
  [.send (wordMsg 256 (Word.lowWord setInteger))]

/-- The button `确认` of `menu_zero_cali`. -/
def btnConfirmEvent (zhuodu : Zhuodu) : List MenuOp :=
  darkCommand zhuodu

/-- The button of `menu_full_cali`. -/
def btnFullConfirmEvent (zhuodu : Zhuodu) (numberBox : U32) : List MenuOp :=
  let absorbance := Word.join (zhuodu (Field.offset .absorbance + 1))
    (zhuodu (Field.offset .absorbance))
  [.send (floatMsg 514 numberBox), .send (floatMsg 522 absorbance),
    .send (wordMsg 291 2), .send (wordMsg 528 1)]

/-- The case `FOCUSED` and `KEY_DOWN_MENU` of `menu_linear_cali`. -/
def menuLinearCaliSend (zhuodu : Zhuodu) (numberBox : Fin 8 → U32) : List MenuOp :=
  match numCali zhuodu with
  | 2 =>
      [.send (floatMsg 267 (numberBox 0)), .send (floatMsg 269 (numberBox 4)),
        .send (floatMsg 271 (numberBox 1)), .send (floatMsg 273 (numberBox 5)),
        .send (wordMsg 528 1)]
  | 3 =>
      [.send (floatMsg 267 (numberBox 0)), .send (floatMsg 269 (numberBox 4)),
        .send (floatMsg 271 (numberBox 1)), .send (floatMsg 273 (numberBox 5)),
        .send (floatMsg 275 (numberBox 2)), .send (floatMsg 277 (numberBox 6)),
        .send (wordMsg 528 1)]
  | 4 =>
      [.send (floatMsg 267 (numberBox 0)), .send (floatMsg 269 (numberBox 4)),
        .send (floatMsg 271 (numberBox 1)), .send (floatMsg 273 (numberBox 5)),
        .send (floatMsg 275 (numberBox 2)), .send (floatMsg 277 (numberBox 6)),
        .send (floatMsg 534 (numberBox 3)), .send (floatMsg 536 (numberBox 7)),
        .send (wordMsg 528 1)]
  | _ => []

inductive Commit
  | rangeSetup (stale : U16) (retVal : U32)
  | rangeSelect (retVal : U8)
  | coeffAB (numberBox numberBox2 : U32)
  | signalSetup (numberBox numberBox2 : U32)
  | canbiZhuodu (numberBox : U32)
  | zeroCompensate (retVal : U32)
  | linearCaliPoint (retVal : U8)
  | zeroCaliSet (setInteger : U32)
  | zeroCaliConfirm
  | fullCali (numberBox : U32)
  | linearCali (numberBox : Fin 8 → U32)

def Commit.ops (zhuodu : Zhuodu) : Commit → List MenuOp
  | rangeSetup stale retVal => menuRangeSetup zhuodu stale retVal
  | rangeSelect retVal => menuRangeSelect retVal
  | coeffAB numberBox numberBox2 => menuCoeffAB zhuodu numberBox numberBox2
  | signalSetup numberBox numberBox2 => menuSignalSetup zhuodu numberBox numberBox2
  | canbiZhuodu numberBox => menuCanbiZhuodu numberBox
  | zeroCompensate retVal => menuZeroCompensate zhuodu retVal
  | linearCaliPoint retVal => menuLinearCaliPoint zhuodu retVal
  | zeroCaliSet setInteger => btnSetEvent setInteger
  | zeroCaliConfirm => btnConfirmEvent zhuodu
  | fullCali numberBox => btnFullConfirmEvent zhuodu numberBox
  | linearCali numberBox => menuLinearCaliSend zhuodu numberBox

def sends : List MenuOp → List ModbusMsg
  | [] => []
  | .send msg :: rest => msg :: sends rest
  | .repair _ :: rest => sends rest
  | .assign _ :: rest => sends rest

/-- Every setting assigned, repaired ones included, in order. -/
def settings : List MenuOp → List Setting
  | [] => []
  | .send _ :: rest => settings rest
  | .repair setting :: rest => setting :: settings rest
  | .assign setting :: rest => setting :: settings rest

def committed : List MenuOp → List Setting
  | [] => []
  | .send _ :: rest => committed rest
  | .repair _ :: rest => committed rest
  | .assign setting :: rest => setting :: committed rest

end ZhuoduControl.Menu
