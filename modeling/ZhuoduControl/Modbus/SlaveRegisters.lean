import ZhuoduControl.Modbus.HoldingCallback

/-! The register callbacks of the slave side: both blocks begin with the turbidity as
last measured. -/

set_option autoImplicit false

namespace ZhuoduControl.Modbus

open ZhuoduControl.Library
open ZhuoduControl.Data

def sRegInputStart : U16 := 100
def sRegInputNregs : U16 := 10
def sRegHoldingStart : U16 := 100
def sRegHoldingNregs : U16 := 10

inductive MBRegisterMode
  | read
  | write
deriving DecidableEq, Repr

structure SlaveResult where
  status : MBErrorCode
  /-- `usSRegInBuf` or `usSRegHoldBuf` -/
  registers : Memory U16
  pucRegBuffer : Memory U8

/-- `p[1]` and `p[0]` of the member in the first two registers. -/
def publish (zhuoduData : Zhuodu) (registers : Memory U16) : Memory U16 :=
  let p := Field.offset .turbidimeter
  (registers.set 0 (zhuoduData (p + 1))).set 1 (zhuoduData p)

/-- The loop that puts registers into the frame, two bytes each. -/
def readRegisters (registers : Memory U16) (position : Nat) (iRegIndex : U16) :
    Nat → List (Nat × U8)
  | 0 => []
  | usNRegs + 1 =>
      let word := registers iRegIndex.toNat
      (position, Word.highByte word) :: (position + 1, Word.lowByte word) ::
        readRegisters registers (position + 2) (iRegIndex + 1) usNRegs

def eMBRegInputCB (usSRegInBuf : Memory U16) (zhuoduData : Zhuodu) (pucRegBuffer : Memory U8)
    (usAddress usNRegs : U16) : SlaveResult :=
  let usAddress := usAddress - 1
  if HoldingRange.Accepts ⟨sRegInputStart, sRegInputNregs⟩ usAddress usNRegs then
    let registers := publish zhuoduData usSRegInBuf
    let iRegIndex := usAddress - sRegInputStart
    ⟨.enoerr, registers,
      pucRegBuffer.setAll (readRegisters registers 0 iRegIndex usNRegs.toNat)⟩
  else
    ⟨.enoreg, usSRegInBuf, pucRegBuffer⟩

def eMBRegHoldingCB (usSRegHoldBuf : Memory U16) (zhuoduData : Zhuodu)
    (pucRegBuffer : Memory U8) (usAddress usNRegs : U16) (eMode : MBRegisterMode) : SlaveResult :=
  let usAddress := usAddress - 1
  if HoldingRange.Accepts ⟨sRegHoldingStart, sRegHoldingNregs⟩ usAddress usNRegs then
    let registers := publish zhuoduData usSRegHoldBuf
    let iRegIndex := usAddress - sRegHoldingStart
    match eMode with
    | .read =>
        ⟨.enoerr, registers,
          pucRegBuffer.setAll (readRegisters registers 0 iRegIndex usNRegs.toNat)⟩
    | .write =>
        ⟨.enoerr, registers.setAll (fillRow pucRegBuffer 0 iRegIndex usNRegs.toNat),
          pucRegBuffer⟩
  else
    ⟨.enoreg, usSRegHoldBuf, pucRegBuffer⟩

theorem publish_first (zhuoduData : Zhuodu) (registers : Memory U16) :
    publish zhuoduData registers 0 = Word.highWord (zhuoduData.readFloat .turbidimeter) ∧
      publish zhuoduData registers 1 = Word.lowWord (zhuoduData.readFloat .turbidimeter) := by
  unfold publish Zhuodu.readFloat
  rw [Word.highWord_join, Word.lowWord_join, Memory.set_same]
  refine ⟨?_, rfl⟩
  exact (Memory.set_other _ _ Nat.zero_ne_one).trans (Memory.set_same ..)

theorem readRegisters_before (registers : Memory U16) {position count : Nat} {iRegIndex : U16} :
    ∀ write ∈ readRegisters registers position iRegIndex count, position ≤ write.1 := by
  induction count generalizing position iRegIndex with
  | zero => exact fun _ member => nomatch member
  | succ count ih =>
      intro write member
      rcases List.mem_cons.mp member with rfl | later
      · exact Nat.le_refl _
      · rcases List.mem_cons.mp later with rfl | later
        · exact Nat.le_succ _
        · exact Nat.le_trans (Nat.le_add_right _ 2) (ih write later)

/-- Register `index` of a frame stands big-endian in its two bytes. -/
theorem readRegisters_apply (registers : Memory U16) (pucRegBuffer : Memory U8) {position : Nat}
    {iRegIndex : U16} {count index : Nat} (bound : iRegIndex.toNat + count < 65536)
    (inside : index < count) :
    let frame := pucRegBuffer.setAll (readRegisters registers position iRegIndex count)
    frame (position + 2 * index) = Word.highByte (registers (iRegIndex.toNat + index)) ∧
      frame (position + 2 * index + 1) = Word.lowByte (registers (iRegIndex.toNat + index)) := by
  induction count generalizing pucRegBuffer position iRegIndex index with
  | zero => cases inside
  | succ count ih =>
      have successor : (iRegIndex + 1).toNat = iRegIndex.toNat + 1 :=
        BitVec.toNat_add_of_lt (by simp; omega)
      have behind := @readRegisters_before registers (position + 2) count (iRegIndex + 1)
      simp only [readRegisters, Memory.setAll_cons]
      cases index with
      | zero =>
          have first : ∀ write ∈ readRegisters registers (position + 2) (iRegIndex + 1) count,
              write.1 ≠ position := fun write member => by
            have := behind write member
            omega
          have second : ∀ write ∈ readRegisters registers (position + 2) (iRegIndex + 1) count,
              write.1 ≠ position + 1 := fun write member => by
            have := behind write member
            omega
          simp only [Nat.mul_zero, Nat.add_zero]
          rw [Memory.setAll_untouched _ _ first, Memory.setAll_untouched _ _ second,
            Memory.set_same, Memory.set_other _ _ (Nat.ne_of_lt (Nat.lt_succ_self position)),
            Memory.set_same]
          exact ⟨rfl, rfl⟩
      | succ index =>
          let word := registers iRegIndex.toNat
          let buffer := (pucRegBuffer.set position (Word.highByte word)).set (position + 1)
            (Word.lowByte word)
          have small : (iRegIndex + 1).toNat + count < 65536 := by omega
          have later := @ih buffer (position + 2) (iRegIndex + 1) index small
            (Nat.lt_of_succ_lt_succ inside)
          have place : position + 2 + 2 * index = position + 2 * (index + 1) := by omega
          have register : iRegIndex.toNat + 1 + index = iRegIndex.toNat + (index + 1) := by omega
          simp only [successor, place, register] at later
          exact later

section Read

variable (registers : Memory U16) (zhuoduData : Zhuodu) (pucRegBuffer : Memory U8)
variable {usAddress usNRegs : U16}

/-- Both blocks are read in the same way. -/
theorem holding_read_eq_input :
    eMBRegHoldingCB registers zhuoduData pucRegBuffer usAddress usNRegs .read =
      eMBRegInputCB registers zhuoduData pucRegBuffer usAddress usNRegs := rfl

theorem input_read (accepted : HoldingRange.Accepts ⟨sRegInputStart, sRegInputNregs⟩
      (usAddress - 1) usNRegs) {register : Nat} (lower : (usAddress - 1).toNat ≤ register)
    (upper : register < (usAddress - 1).toNat + usNRegs.toNat) :
    let result := eMBRegInputCB registers zhuoduData pucRegBuffer usAddress usNRegs
    let word := publish zhuoduData registers (register - sRegInputStart.toNat)
    result.pucRegBuffer (2 * (register - (usAddress - 1).toNat)) = Word.highByte word ∧
      result.pucRegBuffer (2 * (register - (usAddress - 1).toNat) + 1) = Word.lowByte word := by
  obtain ⟨start, stop⟩ := accepted
  have distance : (usAddress - 1 - sRegInputStart).toNat =
      (usAddress - 1).toNat - sRegInputStart.toNat :=
    BitVec.toNat_sub_of_le (BitVec.le_def.mpr start)
  have small : (usAddress - 1 - sRegInputStart).toNat + usNRegs.toNat < 65536 := by
    have range : sRegInputStart.toNat + sRegInputNregs.toNat = 110 := rfl
    simp only [range] at stop
    omega
  have bytes := @readRegisters_apply (publish zhuoduData registers) pucRegBuffer 0
    (usAddress - 1 - sRegInputStart) usNRegs.toNat (register - (usAddress - 1).toNat) small
    (by omega)
  have index : (usAddress - 1 - sRegInputStart).toNat + (register - (usAddress - 1).toNat) =
      register - sRegInputStart.toNat := by
    rw [distance]
    simp only at start
    omega
  rw [index, Nat.zero_add] at bytes
  simp only [eMBRegInputCB, if_pos (show HoldingRange.Accepts ⟨sRegInputStart, sRegInputNregs⟩
    (usAddress - 1) usNRegs from ⟨start, stop⟩)]
  exact bytes

end Read

end ZhuoduControl.Modbus
