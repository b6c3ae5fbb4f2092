import ZhuoduControl.Data.Zhuodu

/-! `modbus_msg_t`, the message the menu queues for the measuring head. -/

set_option autoImplicit false

namespace ZhuoduControl.Modbus

open ZhuoduControl.Library
open ZhuoduControl.Data

/-- The union `dat` is the member that `data_type` selects. -/
structure ModbusMsg where
  retryTimes : U8
  devAddr : U8
  cmd : U8
  dataAddr : U16
  dataType : U8
  dat : Value
  typed : dat.width = if dataType = 0 then .half else .float
deriving DecidableEq, Repr

theorem half_typed (word : U16) :
    (Value.half word).width = if (0 : U8) = 0 then .half else .float := rfl

theorem float_typed (bits : U32) :
    (Value.float bits).width = if (1 : U8) = 0 then .half else .float := rfl

/-- The assignments every page makes to `s_msg` before queueing a 16-bit value. -/
def wordMsg (dataAddr word : U16) : ModbusMsg where
  retryTimes := 5
  devAddr := 1
  cmd := 6
  dataAddr := dataAddr
  dataType := 0
  dat := .half word
  typed := half_typed word

def floatMsg (dataAddr : U16) (bits : U32) : ModbusMsg where
  retryTimes := 5
  devAddr := 1
  cmd := 16
  dataAddr := dataAddr
  dataType := 1
  dat := .float bits
  typed := float_typed bits

def swapF32 (bits : U32) : U32 :=
  Word.join (Word.lowWord bits) (Word.highWord bits)

namespace ModbusMsg

/-- The register values the message thread puts on the bus. A swapped `float` is
read through `data32.buf`, low half-word first. -/
def busWords (msg : ModbusMsg) : List U16 :=
  match msg.dat with
  | .half word => [word]
  | .float bits => [Word.lowWord (swapF32 bits), Word.highWord (swapF32 bits)]

theorem busWords_eq_registers (msg : ModbusMsg) : msg.busWords = msg.dat.registers := by
  unfold busWords
  cases msg.dat with
  | half word => rfl
  | float bits => simp [swapF32, Value.registers]

def Covers (msg : ModbusMsg) (register : Nat) : Prop :=
  msg.dataAddr.toNat ≤ register ∧ register < msg.dataAddr.toNat + msg.dat.width.size

instance (msg : ModbusMsg) (register : Nat) : Decidable (msg.Covers register) :=
  inferInstanceAs (Decidable (_ ∧ _))

end ModbusMsg

end ZhuoduControl.Modbus
