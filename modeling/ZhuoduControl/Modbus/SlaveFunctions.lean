import ZhuoduControl.Modbus.Coils
import ZhuoduControl.Modbus.SlaveNode

/-! The handlers of the function codes on the slave side, each over the PDU in place:
what a handler leaves in it is the answer. -/

set_option autoImplicit false

namespace ZhuoduControl.Modbus.Functions

open ZhuoduControl.Library
open ZhuoduControl.Data
open Rtu Bits
open Memory (part withPart)

def mbFuncReadCoils : U8 := 1
def mbFuncReadDiscreteInputs : U8 := 2
def mbFuncReadHoldingRegister : U8 := 3
def mbFuncReadInputRegister : U8 := 4
def mbFuncWriteSingleCoil : U8 := 5
def mbFuncWriteRegister : U8 := 6
def mbFuncWriteMultipleCoils : U8 := 15
def mbFuncWriteMultipleRegisters : U8 := 16
def mbFuncOtherReportSlaveid : U8 := 17
def mbFuncReadwriteMultipleRegisters : U8 := 23

def mbFuncOtherRepSlaveidBuf : Nat := 32

/-- `ucMBSlaveID` with the part of it that is in use. -/
structure SlaveId where
  ucMBSlaveID : Memory U8
  usMBSlaveIDLen : Nat
  short : usMBSlaveIDLen < mbFuncOtherRepSlaveidBuf

/-- The variables behind the handlers. -/
structure SlaveData where
  usSRegInBuf : Memory U16
  usSRegHoldBuf : Memory U16
  ucSCoilBuf : Memory U8
  ucSDiscInBuf : Memory U8
  slaveId : SlaveId
  zhuoduData : Zhuodu

/-- The bytes that hold a number of bits. -/
def byteCount (usCoilCount : U16) : U8 :=
  if usCoilCount &&& 0x0007 ≠ 0 then BitVec.ofNat 8 (usCoilCount.toNat / 8 + 1)
  else BitVec.ofNat 8 (usCoilCount.toNat / 8)

/-- What a callback leaves. -/
structure Filled where
  eRegStatus : MBErrorCode
  data : SlaveData
  pucRegBuffer : Memory U8

namespace SlaveData

def coilsCB (data : SlaveData) (eMode : MBRegisterMode) (pucRegBuffer : Memory U8)
    (usAddress usNCoils : U16) : Filled :=
  let result := eMBRegCoilsCB data.ucSCoilBuf pucRegBuffer usAddress usNCoils eMode
  ⟨result.status, { data with ucSCoilBuf := result.coils }, result.pucRegBuffer⟩

def discreteCB (data : SlaveData) (pucRegBuffer : Memory U8) (usAddress usNDiscrete : U16) :
    Filled :=
  let result := eMBRegDiscreteCB data.ucSDiscInBuf pucRegBuffer usAddress usNDiscrete
  ⟨result.status, data, result.pucRegBuffer⟩

def inputCB (data : SlaveData) (pucRegBuffer : Memory U8) (usAddress usNRegs : U16) : Filled :=
  let result := eMBRegInputCB data.usSRegInBuf data.zhuoduData pucRegBuffer usAddress usNRegs
  ⟨result.status, { data with usSRegInBuf := result.registers }, result.pucRegBuffer⟩

def holdingCB (data : SlaveData) (eMode : MBRegisterMode) (pucRegBuffer : Memory U8)
    (usAddress usNRegs : U16) : Filled :=
  let result := eMBRegHoldingCB data.usSRegHoldBuf data.zhuoduData pucRegBuffer usAddress usNRegs
    eMode
  ⟨result.status, { data with usSRegHoldBuf := result.registers }, result.pucRegBuffer⟩

end SlaveData

section Handlers

/-- What differs between the four functions that read: `more` is what the length grows by. -/
structure ReadFunction where
  ucFunctionCode : U8
  valid : U16 → Bool
  ucNBytes : U16 → U8
  more : U16 → Nat
  callback : SlaveData → Memory U8 → U16 → U16 → Filled

def ReadFunction.handle (function : ReadFunction) (data : SlaveData) (pucFrame : Memory U8)
    (usLen : Nat) : HandlerResult SlaveData :=
  if usLen = 5 then
    let usRegAddress := pduWord pucFrame 1 + 1
    let usCount := pduWord pucFrame 3
    if function.valid usCount then
      let frame := (pucFrame.set 0 function.ucFunctionCode).set 1 (function.ucNBytes usCount)
      let filled := function.callback data (part frame 2) usRegAddress usCount
      let frame := withPart frame 2 filled.pucRegBuffer
      if filled.eRegStatus ≠ .enoerr then
        ⟨prveMBError2Exception filled.eRegStatus, filled.data, frame, 2⟩
      else
        ⟨exNone, filled.data, frame, 2 + function.more usCount⟩
    else
      ⟨exIllegalDataValue, data, pucFrame, usLen⟩
  else
    ⟨exIllegalDataValue, data, pucFrame, usLen⟩

def readCoils : ReadFunction where
  ucFunctionCode := mbFuncReadCoils
  valid usCoilCount := 1 ≤ usCoilCount.toNat ∧ usCoilCount.toNat < 0x07D0
  ucNBytes := byteCount
  more usCoilCount := (byteCount usCoilCount).toNat
  callback data := data.coilsCB .read

def readDiscreteInputs : ReadFunction where
  ucFunctionCode := mbFuncReadDiscreteInputs
  valid usDiscreteCnt := 1 ≤ usDiscreteCnt.toNat ∧ usDiscreteCnt.toNat < 0x07D0
  ucNBytes := byteCount
  more usDiscreteCnt := (byteCount usDiscreteCnt).toNat
  callback := SlaveData.discreteCB

def readInputRegister : ReadFunction where
  ucFunctionCode := mbFuncReadInputRegister
  valid usRegCount := 1 ≤ usRegCount.toNat ∧ usRegCount.toNat < 0x007D
  ucNBytes usRegCount := BitVec.ofNat 8 (usRegCount.toNat * 2)
  more usRegCount := usRegCount.toNat * 2
  callback := SlaveData.inputCB

def readHoldingRegister : ReadFunction where
  ucFunctionCode := mbFuncReadHoldingRegister
  valid usRegCount := 1 ≤ usRegCount.toNat ∧ usRegCount.toNat ≤ 0x007D
  ucNBytes usRegCount := BitVec.ofNat 8 (usRegCount.toNat * 2)
  more usRegCount := usRegCount.toNat * 2
  callback data := data.holdingCB .read

def eMBFuncReadCoils := readCoils.handle
def eMBFuncReadDiscreteInputs := readDiscreteInputs.handle
def eMBFuncReadInputRegister := readInputRegister.handle
def eMBFuncReadHoldingRegister := readHoldingRegister.handle

/-- A request whose frame is answered as it stands, with as much of it as `usLen` says. -/
def answerWrite (filled : Filled) (pucFrame : Memory U8) (failed usLen : Nat) :
    HandlerResult SlaveData :=
  if filled.eRegStatus ≠ .enoerr then
    ⟨prveMBError2Exception filled.eRegStatus, filled.data, pucFrame, failed⟩
  else
    ⟨exNone, filled.data, pucFrame, usLen⟩

def eMBFuncWriteCoil (data : SlaveData) (pucFrame : Memory U8) (usLen : Nat) :
    HandlerResult SlaveData :=
  if usLen = 5 then
    let usRegAddress := pduWord pucFrame 1 + 1
    if pucFrame 4 = 0x00 ∧ (pucFrame 3 = 0xFF ∨ pucFrame 3 = 0x00) then
      let ucBuf : Memory U8 := fun index => if index = 0 ∧ pucFrame 3 = 0xFF then 1 else 0
      answerWrite (data.coilsCB .write ucBuf usRegAddress 1) pucFrame usLen usLen
    else
      ⟨exIllegalDataValue, data, pucFrame, usLen⟩
  else
    ⟨exIllegalDataValue, data, pucFrame, usLen⟩

def eMBFuncWriteMultipleCoils (data : SlaveData) (pucFrame : Memory U8) (usLen : Nat) :
    HandlerResult SlaveData :=
  if 5 < usLen then
    let usRegAddress := pduWord pucFrame 1 + 1
    let usCoilCnt := pduWord pucFrame 3
    let ucByteCount := pucFrame 5
    if 1 ≤ usCoilCnt.toNat ∧ usCoilCnt.toNat ≤ 0x07B0 ∧ byteCount usCoilCnt = ucByteCount then
      answerWrite (data.coilsCB .write (part pucFrame 6) usRegAddress usCoilCnt) pucFrame usLen 5
    else
      ⟨exIllegalDataValue, data, pucFrame, usLen⟩
  else
    ⟨exIllegalDataValue, data, pucFrame, usLen⟩

def eMBFuncWriteHoldingRegister (data : SlaveData) (pucFrame : Memory U8) (usLen : Nat) :
    HandlerResult SlaveData :=
  if usLen = 5 then
    let usRegAddress := pduWord pucFrame 1 + 1
    answerWrite (data.holdingCB .write (part pucFrame 3) usRegAddress 1) pucFrame usLen usLen
  else
    ⟨exIllegalDataValue, data, pucFrame, usLen⟩

def eMBFuncWriteMultipleHoldingRegister (data : SlaveData) (pucFrame : Memory U8) (usLen : Nat) :
    HandlerResult SlaveData :=
  if 6 ≤ usLen then
    let usRegAddress := pduWord pucFrame 1 + 1
    let usRegCount := pduWord pucFrame 3
    let ucRegByteCount := pucFrame 5
    if 1 ≤ usRegCount.toNat ∧ usRegCount.toNat ≤ 0x0078 ∧
        ucRegByteCount = BitVec.ofNat 8 (2 * usRegCount.toNat) then
      answerWrite (data.holdingCB .write (part pucFrame 6) usRegAddress usRegCount) pucFrame usLen 5
    else
      ⟨exIllegalDataValue, data, pucFrame, usLen⟩
  else
    ⟨exIllegalDataValue, data, pucFrame, usLen⟩

/-- A request that is too short is answered as it stands. -/
def eMBFuncReadWriteMultipleHoldingRegister (data : SlaveData) (pucFrame : Memory U8)
    (usLen : Nat) : HandlerResult SlaveData :=
  if 10 ≤ usLen then
    let usRegReadAddress := pduWord pucFrame 1 + 1
    let usRegReadCount := pduWord pucFrame 3
    let usRegWriteAddress := pduWord pucFrame 5 + 1
    let usRegWriteCount := pduWord pucFrame 7
    let ucRegWriteByteCount := pucFrame 9
    if 1 ≤ usRegReadCount.toNat ∧ usRegReadCount.toNat ≤ 0x7D ∧
        1 ≤ usRegWriteCount.toNat ∧ usRegWriteCount.toNat ≤ 0x79 ∧
        2 * usRegWriteCount.toNat = ucRegWriteByteCount.toNat then
      let written := data.holdingCB .write (part pucFrame 10) usRegWriteAddress usRegWriteCount
      if written.eRegStatus = .enoerr then
        let frame := (pucFrame.set 0 mbFuncReadwriteMultipleRegisters).set 1
          (BitVec.ofNat 8 (usRegReadCount.toNat * 2))
        let filled := written.data.holdingCB .read (part frame 2) usRegReadAddress usRegReadCount
        let frame := withPart frame 2 filled.pucRegBuffer
        if filled.eRegStatus = .enoerr then
          ⟨exNone, filled.data, frame, 2 + 2 * usRegReadCount.toNat⟩
        else
          ⟨prveMBError2Exception filled.eRegStatus, filled.data, frame, 2⟩
      else
        ⟨prveMBError2Exception written.eRegStatus, written.data, pucFrame, usLen⟩
    else
      ⟨exIllegalDataValue, data, pucFrame, usLen⟩
  else
    ⟨exNone, data, pucFrame, usLen⟩

def eMBFuncReportSlaveID (data : SlaveData) (pucFrame : Memory U8) (_usLen : Nat) :
    HandlerResult SlaveData :=
  let slaveId := data.slaveId
  ⟨exNone, data, pucFrame.store 1 (slaveId.ucMBSlaveID.load 0 slaveId.usMBSlaveIDLen),
    1 + slaveId.usMBSlaveIDLen⟩

/-- The rows of `xFuncHandlers` that are filled. -/
def xFuncHandlers : List (U8 × (SlaveData → Memory U8 → Nat → HandlerResult SlaveData)) :=
  [(mbFuncOtherReportSlaveid, eMBFuncReportSlaveID),
    (mbFuncReadInputRegister, eMBFuncReadInputRegister),
    (mbFuncReadHoldingRegister, eMBFuncReadHoldingRegister),
    (mbFuncWriteMultipleRegisters, eMBFuncWriteMultipleHoldingRegister),
    (mbFuncWriteRegister, eMBFuncWriteHoldingRegister),
    (mbFuncReadwriteMultipleRegisters, eMBFuncReadWriteMultipleHoldingRegister),
    (mbFuncReadCoils, eMBFuncReadCoils),
    (mbFuncWriteSingleCoil, eMBFuncWriteCoil),
    (mbFuncWriteMultipleCoils, eMBFuncWriteMultipleCoils),
    (mbFuncReadDiscreteInputs, eMBFuncReadDiscreteInputs)]

/-- The first row with the code; the rows behind the filled ones hold no code. -/
def slaveHandlers : Handlers SlaveData := fun ucFunctionCode =>
  xFuncHandlers.lookup ucFunctionCode

end Handlers

section Lengths

/-- A handler keeps a PDU within a frame. -/
def Keeps (pxHandler : SlaveData → Memory U8 → Nat → HandlerResult SlaveData) : Prop :=
  ∀ data pucFrame usLen, usLen ≤ mbPduSizeMax → (pxHandler data pucFrame usLen).usLen ≤ mbPduSizeMax

theorem ReadFunction.handle_keeps {function : ReadFunction}
    (fits : ∀ usCount, function.valid usCount = true → function.more usCount ≤ 250) :
    Keeps function.handle := by
  intro data pucFrame usLen short
  have two : 2 ≤ mbPduSizeMax := by decide
  unfold ReadFunction.handle
  by_cases five : usLen = 5
  · rw [if_pos five]
    by_cases valid : function.valid (pduWord pucFrame 3) = true
    · have more := fits _ valid
      simp only [if_pos valid]
      split
      · exact two
      · have fits : 2 + 250 ≤ mbPduSizeMax := by decide
        exact Nat.le_trans (Nat.add_le_add_left more 2) fits
    · simp only [if_neg valid]
      exact short
  · rw [if_neg five]
    exact short

theorem answerWrite_keeps (filled : Filled) (pucFrame : Memory U8) {failed usLen : Nat}
    (first : failed ≤ mbPduSizeMax) (second : usLen ≤ mbPduSizeMax) :
    (answerWrite filled pucFrame failed usLen).usLen ≤ mbPduSizeMax := by
  unfold answerWrite
  split
  · exact first
  · exact second

theorem byteCount_le {usCoilCount : U16} (valid : usCoilCount.toNat < 0x07D0) :
    (byteCount usCoilCount).toNat ≤ 250 := by
  unfold byteCount
  split
  · rw [BitVec.toNat_ofNat]
    omega
  · rw [BitVec.toNat_ofNat]
    omega

theorem writeCoil_keeps : Keeps eMBFuncWriteCoil := by
  intro data pucFrame usLen short
  unfold eMBFuncWriteCoil
  split
  · simp only
    split
    · exact answerWrite_keeps _ _ short short
    · exact short
  · exact short

theorem writeMultipleCoils_keeps : Keeps eMBFuncWriteMultipleCoils := by
  intro data pucFrame usLen short
  have five : 5 ≤ mbPduSizeMax := by decide
  unfold eMBFuncWriteMultipleCoils
  split
  · simp only
    split
    · exact answerWrite_keeps _ _ short five
    · exact short
  · exact short

theorem writeHoldingRegister_keeps : Keeps eMBFuncWriteHoldingRegister := by
  intro data pucFrame usLen short
  unfold eMBFuncWriteHoldingRegister
  split
  · exact answerWrite_keeps _ _ short short
  · exact short

theorem writeMultipleHoldingRegister_keeps : Keeps eMBFuncWriteMultipleHoldingRegister := by
  intro data pucFrame usLen short
  have five : 5 ≤ mbPduSizeMax := by decide
  unfold eMBFuncWriteMultipleHoldingRegister
  split
  · simp only
    split
    · exact answerWrite_keeps _ _ short five
    · exact short
  · exact short

theorem readWriteMultipleHoldingRegister_keeps :
    Keeps eMBFuncReadWriteMultipleHoldingRegister := by
  intro data pucFrame usLen short
  have two : 2 ≤ mbPduSizeMax := by decide
  unfold eMBFuncReadWriteMultipleHoldingRegister
  split
  · simp only
    split
    · next valid =>
      split
      · split
        · have fits : 2 + 2 * 0x7D ≤ mbPduSizeMax := by decide
          exact Nat.le_trans (Nat.add_le_add_left (Nat.mul_le_mul_left 2 valid.2.1) 2) fits
        · exact two
      · exact short
    · exact short
  · exact short

theorem reportSlaveID_keeps : Keeps eMBFuncReportSlaveID := by
  intro data pucFrame usLen short
  have fits : mbFuncOtherRepSlaveidBuf ≤ 252 := by decide
  have length := data.slaveId.short
  simp only [eMBFuncReportSlaveID, mbPduSizeMax]
  omega

theorem xFuncHandlers_keep : ∀ row ∈ xFuncHandlers, Keeps row.2 := by
  have coils : ∀ usCount : U16, decide (1 ≤ usCount.toNat ∧ usCount.toNat < 0x07D0) = true →
      (byteCount usCount).toNat ≤ 250 := fun usCount valid =>
    byteCount_le (of_decide_eq_true valid).2
  have input : ∀ usCount : U16, decide (1 ≤ usCount.toNat ∧ usCount.toNat < 0x007D) = true →
      usCount.toNat * 2 ≤ 250 := fun usCount valid => by
    have bound := (of_decide_eq_true valid).2
    omega
  have holding : ∀ usCount : U16, decide (1 ≤ usCount.toNat ∧ usCount.toNat ≤ 0x007D) = true →
      usCount.toNat * 2 ≤ 250 := fun usCount valid => by
    have bound := (of_decide_eq_true valid).2
    omega
  simp only [xFuncHandlers, List.forall_mem_cons]
  exact ⟨reportSlaveID_keeps, ReadFunction.handle_keeps input, ReadFunction.handle_keeps holding,
    writeMultipleHoldingRegister_keeps, writeHoldingRegister_keeps,
    readWriteMultipleHoldingRegister_keeps, ReadFunction.handle_keeps coils, writeCoil_keeps,
    writeMultipleCoils_keeps, ReadFunction.handle_keeps coils, fun _ member => nomatch member⟩

theorem slaveHandlers_bounded : slaveHandlers.Bounded := by
  intro code pxHandler found app pucFrame usLen short
  obtain ⟨before, after, split, _⟩ := List.lookup_eq_some_iff.mp found
  have member : (code, pxHandler) ∈ xFuncHandlers := by
    rw [split]
    exact List.mem_append_right _ (.head _)
  exact xFuncHandlers_keep _ member app pucFrame usLen short

end Lengths

section Confinement

variable {memory outside : Memory U8} {size : Nat}

/-- A handler neither reads nor writes behind the end of the buffer. -/
def Confined (pxHandler : SlaveData → Memory U8 → Nat → HandlerResult SlaveData) : Prop :=
  ∀ data pucFrame usLen outside, pxHandler data (pucFrame.beyond pduRoom outside) usLen =
    (pxHandler data pucFrame usLen).beyond outside

def Filled.beyond (filled : Filled) (size : Nat) (outside : Memory U8) : Filled :=
  { filled with pucRegBuffer := filled.pucRegBuffer.beyond size outside }

theorem byte_ext {first second : Memory U8} {position : Nat}
    (same : ∀ index < 8, bitAt first (8 * position + index) = bitAt second (8 * position + index)) :
    first position = second position := by
  apply BitVec.eq_of_getLsbD_eq
  intro index inside
  rw [← bitAt_byte first position inside, ← bitAt_byte second position inside]
  exact same index inside

theorem readBank_beyond (bank : Memory U8) (first : U16) {usNBits : U16}
    (fits : usNBits.toNat / 8 < size) :
    readBank bank first usNBits (memory.beyond size outside) =
      (readBank bank first usNBits memory).beyond size outside := by
  funext position
  by_cases inside : position < size
  · rw [Memory.beyond_inside inside]
    apply byte_ext
    intro index bit
    rw [bitAt_readBank, bitAt_readBank]
    congr 1
    rw [bitAt_byte _ _ bit, bitAt_byte _ _ bit, Memory.beyond_inside inside]
  · have behind : size ≤ position := Nat.le_of_not_lt inside
    rw [Memory.beyond_outside behind]
    apply byte_ext
    intro index bit
    have past : ¬ 8 * position + index < 8 * (usNBits.toNat / 8 + 1) := by omega
    rw [bitAt_readBank, if_neg past, bitAt_byte _ _ bit, bitAt_byte _ _ bit,
      Memory.beyond_outside behind]

theorem writeLoop_beyond {iRegBitIndex rest more iRegIndex position : Nat} {bank : Memory U8}
    (fits : position + more < size) :
    writeLoop (memory.beyond size outside) iRegBitIndex rest more iRegIndex position bank =
      writeLoop memory iRegBitIndex rest more iRegIndex position bank := by
  induction more generalizing iRegIndex position bank with
  | zero =>
      have here : position < size := fits
      rw [writeLoop, writeLoop, Memory.beyond_inside here]
  | succ more ih =>
      have later : position + 1 + more < size := by omega
      have here : position < size := by omega
      rw [writeLoop, writeLoop, Memory.beyond_inside here, ih later]

theorem fillRow_beyond {position count : Nat} {iRegIndex : U16} (fits : position + 2 * count ≤ size) :
    fillRow (memory.beyond size outside) position iRegIndex count =
      fillRow memory position iRegIndex count := by
  induction count generalizing position iRegIndex with
  | zero => rfl
  | succ count ih =>
      have first : position < size := by omega
      have second : position + 1 < size := by omega
      have later : position + 2 + 2 * count ≤ size := by omega
      rw [fillRow, fillRow, Memory.beyond_inside first, Memory.beyond_inside second, ih later]

theorem readRegisters_within (registers : Memory U16) {position count : Nat} {iRegIndex : U16} :
    ∀ write ∈ readRegisters registers position iRegIndex count, write.1 < position + 2 * count := by
  induction count generalizing position iRegIndex with
  | zero => exact fun _ member => nomatch member
  | succ count ih =>
      simp only [readRegisters, List.forall_mem_cons]
      refine ⟨by omega, by omega, fun write member => ?_⟩
      have bound := ih write member
      omega

theorem pduWord_beyond {offset : Nat} (inside : offset + 1 < size) :
    pduWord (memory.beyond size outside) offset = pduWord memory offset := by
  have first : offset < size := by omega
  rw [pduWord, Memory.beyond_inside first, Memory.beyond_inside inside]
  rfl

theorem coilsCB_beyond (data : SlaveData) (eMode : MBRegisterMode) (usAddress usNCoils : U16)
    (room : 3 ≤ size) :
    data.coilsCB eMode (memory.beyond size outside) usAddress usNCoils =
      (data.coilsCB eMode memory usAddress usNCoils).beyond size outside := by
  unfold SlaveData.coilsCB eMBRegCoilsCB
  simp only
  split
  · next accepted =>
    have few : usNCoils.toNat ≤ 16 := Nat.le_trans (Nat.le_add_left ..) accepted.2
    cases eMode with
    | read =>
        simp only
        rw [readBank_beyond _ _ (by omega)]
        rfl
    | write =>
        simp only
        rw [writeLoop_beyond (by omega)]
        rfl
  · rfl

theorem discreteCB_beyond (data : SlaveData) (usAddress usNDiscrete : U16) (room : 3 ≤ size) :
    data.discreteCB (memory.beyond size outside) usAddress usNDiscrete =
      (data.discreteCB memory usAddress usNDiscrete).beyond size outside := by
  unfold SlaveData.discreteCB eMBRegDiscreteCB
  simp only
  split
  · next accepted =>
    have few : usNDiscrete.toNat ≤ 16 := Nat.le_trans (Nat.le_add_left ..) accepted.2
    simp only
    rw [readBank_beyond _ _ (by omega)]
    rfl
  · rfl

/-- Both blocks of registers have ten. -/
theorem few_registers {usAddress usNRegs : U16}
    (accepted : HoldingRange.Accepts ⟨sRegInputStart, sRegInputNregs⟩ usAddress usNRegs) :
    usNRegs.toNat ≤ 10 := by
  have start : 100 ≤ usAddress.toNat := accepted.1
  have stop : usAddress.toNat + usNRegs.toNat ≤ 110 := accepted.2
  omega

theorem readRegisters_beyond (registers : Memory U16) {iRegIndex : U16} {count : Nat}
    (fits : 2 * count ≤ size) :
    (memory.beyond size outside).setAll (readRegisters registers 0 iRegIndex count) =
      (memory.setAll (readRegisters registers 0 iRegIndex count)).beyond size outside := by
  apply Memory.beyond_setAll
  intro write member
  have within := readRegisters_within registers write member
  omega

theorem inputCB_beyond (data : SlaveData) (usAddress usNRegs : U16) (room : 20 ≤ size) :
    data.inputCB (memory.beyond size outside) usAddress usNRegs =
      (data.inputCB memory usAddress usNRegs).beyond size outside := by
  unfold SlaveData.inputCB eMBRegInputCB
  simp only
  split
  · next accepted =>
    have few := few_registers accepted
    simp only
    rw [readRegisters_beyond _ (by omega)]
    rfl
  · rfl

theorem holdingCB_beyond (data : SlaveData) (eMode : MBRegisterMode) (usAddress usNRegs : U16)
    (room : 20 ≤ size) :
    data.holdingCB eMode (memory.beyond size outside) usAddress usNRegs =
      (data.holdingCB eMode memory usAddress usNRegs).beyond size outside := by
  unfold SlaveData.holdingCB eMBRegHoldingCB
  simp only
  split
  · next accepted =>
    have few := few_registers accepted
    cases eMode with
    | read =>
        simp only
        rw [readRegisters_beyond _ (by omega)]
        rfl
    | write =>
        simp only
        rw [fillRow_beyond (by omega)]
        rfl
  · rfl

/-- The two bytes in front of what a function reads. -/
theorem begin_beyond (ucFunctionCode ucNBytes : U8) :
    ((memory.beyond pduRoom outside).set 0 ucFunctionCode).set 1 ucNBytes =
      ((memory.set 0 ucFunctionCode).set 1 ucNBytes).beyond pduRoom outside := by
  rw [Memory.beyond_set (by decide), Memory.beyond_set (by decide)]

theorem ReadFunction.handle_confined {function : ReadFunction}
    (confined : ∀ data memory size outside usAddress usCount, 20 ≤ size →
      function.callback data (memory.beyond size outside) usAddress usCount =
        (function.callback data memory usAddress usCount).beyond size outside) :
    Confined function.handle := by
  intro data pucFrame usLen outside
  have two : 2 ≤ pduRoom := by decide
  unfold ReadFunction.handle
  rw [pduWord_beyond (by decide), pduWord_beyond (by decide)]
  simp only [begin_beyond, Memory.part_beyond two]
  split
  · split
    · rw [confined _ _ _ _ _ _ (by decide)]
      simp only [Filled.beyond, Memory.withPart_beyond two]
      split
      · rfl
      · rfl
    · rfl
  · rfl

theorem answerWrite_beyond (filled : Filled) (failed usLen : Nat) :
    answerWrite filled (memory.beyond pduRoom outside) failed usLen =
      (answerWrite filled memory failed usLen).beyond outside := by
  unfold answerWrite
  split
  · rfl
  · rfl

theorem writeCoil_confined : Confined eMBFuncWriteCoil := by
  intro data pucFrame usLen outside
  unfold eMBFuncWriteCoil
  rw [pduWord_beyond (by decide), Memory.beyond_inside (by decide), Memory.beyond_inside (by decide)]
  split
  · simp only
    split
    · exact answerWrite_beyond ..
    · rfl
  · rfl

theorem writeMultipleCoils_confined : Confined eMBFuncWriteMultipleCoils := by
  intro data pucFrame usLen outside
  unfold eMBFuncWriteMultipleCoils
  rw [pduWord_beyond (by decide), pduWord_beyond (by decide), Memory.beyond_inside (by decide),
    Memory.part_beyond (by decide)]
  split
  · simp only
    split
    · rw [coilsCB_beyond _ _ _ _ (by decide)]
      exact answerWrite_beyond ..
    · rfl
  · rfl

theorem writeHoldingRegister_confined : Confined eMBFuncWriteHoldingRegister := by
  intro data pucFrame usLen outside
  unfold eMBFuncWriteHoldingRegister
  rw [pduWord_beyond (by decide), Memory.part_beyond (by decide)]
  split
  · simp only
    rw [holdingCB_beyond _ _ _ _ (by decide)]
    exact answerWrite_beyond ..
  · rfl

theorem writeMultipleHoldingRegister_confined : Confined eMBFuncWriteMultipleHoldingRegister := by
  intro data pucFrame usLen outside
  unfold eMBFuncWriteMultipleHoldingRegister
  rw [pduWord_beyond (by decide), pduWord_beyond (by decide), Memory.beyond_inside (by decide),
    Memory.part_beyond (by decide)]
  split
  · simp only
    split
    · rw [holdingCB_beyond _ _ _ _ (by decide)]
      exact answerWrite_beyond ..
    · rfl
  · rfl

theorem readWriteMultipleHoldingRegister_confined :
    Confined eMBFuncReadWriteMultipleHoldingRegister := by
  intro data pucFrame usLen outside
  have two : 2 ≤ pduRoom := by decide
  have read : 20 ≤ pduRoom - 2 := by decide
  have write : 20 ≤ pduRoom - 10 := by decide
  unfold eMBFuncReadWriteMultipleHoldingRegister
  rw [pduWord_beyond (by decide), pduWord_beyond (by decide), pduWord_beyond (by decide),
    pduWord_beyond (by decide), Memory.beyond_inside (by decide), Memory.part_beyond (by decide)]
  simp only [begin_beyond, Memory.part_beyond two, holdingCB_beyond _ _ _ _ read,
    holdingCB_beyond _ _ _ _ write, Filled.beyond, Memory.withPart_beyond two]
  split
  · split
    · split
      · split
        · rfl
        · rfl
      · rfl
    · rfl
  · rfl

theorem reportSlaveID_confined : Confined eMBFuncReportSlaveID := by
  intro data pucFrame usLen outside
  have short := data.slaveId.short
  have room : mbFuncOtherRepSlaveidBuf ≤ pduRoom := by decide
  unfold eMBFuncReportSlaveID
  simp only
  rw [Memory.beyond_store]
  · rfl
  · rw [Memory.load_length]
    omega

theorem xFuncHandlers_confined : ∀ row ∈ xFuncHandlers, Confined row.2 := by
  have small : 3 ≤ 20 := by decide
  have coils : Confined readCoils.handle := ReadFunction.handle_confined
    fun data _ _ _ usAddress usCount room =>
      coilsCB_beyond data .read usAddress usCount (Nat.le_trans small room)
  have discretes : Confined readDiscreteInputs.handle := ReadFunction.handle_confined
    fun data _ _ _ usAddress usCount room =>
      discreteCB_beyond data usAddress usCount (Nat.le_trans small room)
  have inputs : Confined readInputRegister.handle := ReadFunction.handle_confined
    fun data _ _ _ usAddress usCount room => inputCB_beyond data usAddress usCount room
  have holdings : Confined readHoldingRegister.handle := ReadFunction.handle_confined
    fun data _ _ _ usAddress usCount room => holdingCB_beyond data .read usAddress usCount room
  simp only [xFuncHandlers, List.forall_mem_cons]
  exact ⟨reportSlaveID_confined, inputs, holdings, writeMultipleHoldingRegister_confined,
    writeHoldingRegister_confined, readWriteMultipleHoldingRegister_confined, coils,
    writeCoil_confined, writeMultipleCoils_confined, discretes, fun _ member => nomatch member⟩

theorem slaveHandlers_confined : slaveHandlers.Confined := by
  intro code pxHandler found
  obtain ⟨before, after, split, _⟩ := List.lookup_eq_some_iff.mp found
  have member : (code, pxHandler) ∈ xFuncHandlers := by
    rw [split]
    exact List.mem_append_right _ (.head _)
  exact xFuncHandlers_confined _ member

end Confinement

end ZhuoduControl.Modbus.Functions
