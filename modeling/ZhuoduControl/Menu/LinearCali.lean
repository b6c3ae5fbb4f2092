import ZhuoduControl.Menu.NumberBoxText
import ZhuoduControl.Menu.SavingBoxes

/-! The multi-point calibration page and the messages it queues when it is left from a
focused box. -/

set_option autoImplicit false

namespace ZhuoduControl.Menu.LinearCali

open ZhuoduControl.Library
open ZhuoduControl.Library.DecimalText (Number)
open ZhuoduControl.Data
open ZhuoduControl.Modbus
open ZhuoduControl.Menu
open ZhuoduControl.Menu.Box
open ZhuoduControl.Menu.BoxPages
open ZhuoduControl.Queue

/-- What the eight boxes hold. -/
def contents (statics : BoxPageStatics) (index : Fin 8) : U32 := (statics.box index).setFloat

def SelectedIsFocused (statics : BoxPageStatics) : Prop :=
  statics.stat (.box statics.currSelect) = .focused

instance (statics : BoxPageStatics) : Decidable (SelectedIsFocused statics) :=
  inferInstanceAs (Decidable (_ = _))

def pointMessages (contents : Fin 8 → U32) (j : Fin 4) : List ModbusMsg :=
  [carrier ⟨.turbidimeterCaliBuf j, .float (contents ⟨2 * j.val, by omega⟩), rfl⟩,
    carrier ⟨.absorbanceCaliBuf j, .float (contents ⟨2 * j.val + 1, by omega⟩), rfl⟩]

def pointsUpTo (count : Nat) (contents : Fin 8 → U32) : List ModbusMsg :=
  ((List.finRange 4).filter fun j => j.val < count).flatMap (pointMessages contents)

def coefficientFields : List Field :=
  [.a1, .b1, .a2, .b2, .a3, .b3, .a4, .b4]

/-- The points of the page go to the point registers, then the trigger, and no
coefficient is written. -/
structure SendsPoints (count : Nat) (contents : Fin 8 → U32) (queuedNow : List ModbusMsg) :
    Prop where
  points : ∃ data, queuedNow = data ++ [wordMsg 528 1] ∧ data.Perm (pointsUpTo count contents)
  coefficients : ∀ msg ∈ queuedNow, ∀ field ∈ coefficientFields, ∀ register,
    msg.Covers register → ¬ field.Owns register

section Leave

variable (clib : Clib) {input : PageInput} {statics : BoxPageStatics}
variable (stat : statics.setStat = 2) (focused : SelectedIsFocused statics)
variable (menu : input.msg = .downMenu)

include stat focused menu

theorem menuLinearCali_leave :
    (menuLinearCali clib input statics).ops = menuLinearCaliSend input.zhuodu (contents statics) := by
  have selected : statics.stat (.box statics.currSelect) = .focused := focused
  have entered : linearCaliSwitch input statics = linearCaliCaseTwo input [] statics := by
    unfold linearCaliSwitch
    rw [stat]
    rfl
  have notDown : ¬ (Frame.KeyCode.downMenu = .downDown ∧
      statics.stat (.box statics.currSelect) = .focused) := nofun
  have notUp : ¬ (Frame.KeyCode.downMenu = .downUp ∧
      statics.stat (.box statics.currSelect) = .focused) := nofun
  have leaves : statics.stat (.box statics.currSelect) = .focused ∧
      Frame.KeyCode.downMenu = .downMenu := ⟨selected, rfl⟩
  unfold menuLinearCali
  rw [entered, linearCaliCaseTwo, menu, if_neg notDown, if_neg notUp, if_pos leaves]
  rfl

end Leave

theorem menuLinearCaliSend_addresses (zhuodu : Zhuodu) (contents : Fin 8 → U32) :
    ∀ msg ∈ sends (menuLinearCaliSend zhuodu contents),
      msg.dataAddr ∈ [267, 269, 271, 273, 275, 277, 534, 536, 528] := by
  unfold menuLinearCaliSend
  split <;> simp [sends, floatMsg, wordMsg]

/-- Whatever the boxes hold, what is queued when the page is left is not what it shows. -/
theorem menuLinearCali_never_sendsPoints (clib : Clib) (input : PageInput)
    (mq : MessageQueue ModbusMsg) (statics : BoxPageStatics) (stat : statics.setStat = 2)
    (focused : SelectedIsFocused statics) (menu : input.msg = .downMenu)
    (counted : numCali input.zhuodu ∈ [2, 3, 4]) :
    ¬ SendsPoints (numCali input.zhuodu) (contents statics)
      (queuedBy input.zhuodu mq (menuLinearCali clib input statics).ops) := by
  intro sent
  obtain ⟨data, queuedNow, permuted⟩ := sent.points
  have ops := menuLinearCali_leave clib stat focused menu
  rw [ops, queuedBy_eq] at queuedNow
  let first := carrier ⟨.turbidimeterCaliBuf 0, .float (contents statics 0), rfl⟩
  have positive : 0 < numCali input.zhuodu := by
    simp only [List.mem_cons, List.not_mem_nil, or_false] at counted
    omega
  have expected : first ∈ pointsUpTo (numCali input.zhuodu) (contents statics) := by
    refine List.mem_flatMap.mpr ⟨0, ?_, .head _⟩
    simpa using positive
  have present : first ∈ (sends (menuLinearCaliSend input.zhuodu (contents statics))).take
      mq.free := by
    rw [queuedNow]
    exact List.mem_append_left _ (permuted.mem_iff.mpr expected)
  have listed := menuLinearCaliSend_addresses input.zhuodu (contents statics) first
    (List.mem_of_mem_take present)
  have place : Field.address (.turbidimeterCaliBuf 0) = 512 := by decide +kernel
  have address : first.dataAddr = 512 := (carrier_dataAddr _).trans place
  rw [address] at listed
  revert listed
  decide

section Instance

/-- All points are 1.0. -/
def countedPoints (count : U16) : Zhuodu :=
  let points : List Field := (List.finRange 4).flatMap fun j =>
    [.turbidimeterCaliBuf j, .absorbanceCaliBuf j]
  points.foldl (fun zhuodu field =>
      (zhuodu.set (field.offset + 1) 0x3F80).set field.offset 0)
    (Zhuodu.assign (fun _ => 0) ⟨.numCali, .half count, numCali_half count⟩)

def pressed (zhuodu : Zhuodu) (msg : Frame.KeyCode) : PageInput := ⟨msg, fun _ => .nan, zhuodu⟩

/-- The page with its first box focused, as the keys leave it. -/
def focusedPage (zhuodu : Zhuodu) : BoxPageStatics :=
  called plainClib .linearCali [pressed zhuodu .none, pressed zhuodu .downDown]

theorem menuLinearCali_never_sendsPoints_three :
    let input := pressed (countedPoints 3) .downMenu
    let statics := focusedPage (countedPoints 3)
    statics.setStat = 2 ∧ SelectedIsFocused statics ∧ numCali input.zhuodu ∈ [2, 3, 4] ∧
      ¬ SendsPoints (numCali input.zhuodu) (contents statics)
        (queuedBy input.zhuodu initialQueue (menuLinearCali plainClib input statics).ops) :=
  ⟨by decide +kernel, by decide +kernel, by decide +kernel,
    menuLinearCali_never_sendsPoints plainClib _ initialQueue _ (by decide +kernel)
      (by decide +kernel) rfl (by decide +kernel)⟩

theorem menuLinearCali_two_points_overwrite_coefficients :
    ¬ ∀ (input : PageInput) (statics : BoxPageStatics) (mq : MessageQueue ModbusMsg),
      Reached plainClib .linearCali statics → statics.setStat = 2 → SelectedIsFocused statics →
        input.msg = .downMenu → numCali input.zhuodu ∈ [2, 3, 4] →
          SendsPoints (numCali input.zhuodu) (contents statics)
            (queuedBy input.zhuodu mq (menuLinearCali plainClib input statics).ops) := by
  intro always
  have sent := always (pressed (countedPoints 2) .downMenu) (focusedPage (countedPoints 2))
    initialQueue (reached_called ..) (by decide +kernel) (by decide +kernel) rfl (by decide +kernel)
  have overwritten := sent.coefficients (floatMsg 267 0x3F800000)
    (by decide +kernel) .a1 (by decide) 267 (by decide)
  revert overwritten
  decide +kernel

end Instance

end ZhuoduControl.Menu.LinearCali
