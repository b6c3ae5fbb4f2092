import ZhuoduControl.Modbus.SlaveFunctions
import ZhuoduControl.Modbus.SlaveHistory

/-! What the slave is for: a bank of bits and registers that requests read and write. The
handlers answer the PDU of a request with the PDU of the answer that the bank gives. -/

set_option autoImplicit false

namespace ZhuoduControl.Modbus.Protocol

open ZhuoduControl.Library
open ZhuoduControl.Data
open Rtu Bits Functions
open Memory (part withPart)

section Encoding

def word (value : U16) : List U8 := [Word.highByte value, Word.lowByte value]

def words (values : List U16) : List U8 := values.flatMap word

def byteOf (bits : Nat → Bool) : U8 := BitVec.ofBoolListLE ((List.range 8).map bits)

/-- The first `count` bits, filled up to whole bytes with what follows them. -/
def bytesOf (count : Nat) (bits : Nat → Bool) : List U8 :=
  (List.range ((count + 7) / 8)).map fun position => byteOf fun index => bits (8 * position + index)

/-- A row of bits with nothing behind it. -/
def row (values : List Bool) : Nat → Bool := fun index => values.getD index false

end Encoding

inductive Request
  | readCoils (address count : U16)
  | readDiscreteInputs (address count : U16)
  | readHoldingRegisters (address count : U16)
  | readInputRegisters (address count : U16)
  | writeCoil (address : U16) (on : Bool)
  | writeRegister (address value : U16)
  | writeCoils (address : U16) (values : List Bool)
  | writeRegisters (address : U16) (values : List U16)
  | readWriteRegisters (readAddress readCount writeAddress : U16) (values : List U16)
  | reportSlaveId

def Request.code : Request → U8
  | .readCoils .. => mbFuncReadCoils
  | .readDiscreteInputs .. => mbFuncReadDiscreteInputs
  | .readHoldingRegisters .. => mbFuncReadHoldingRegister
  | .readInputRegisters .. => mbFuncReadInputRegister
  | .writeCoil .. => mbFuncWriteSingleCoil
  | .writeRegister .. => mbFuncWriteRegister
  | .writeCoils .. => mbFuncWriteMultipleCoils
  | .writeRegisters .. => mbFuncWriteMultipleRegisters
  | .readWriteRegisters .. => mbFuncReadwriteMultipleRegisters
  | .reportSlaveId => mbFuncOtherReportSlaveid

def switch (on : Bool) : U16 := if on then 0xFF00 else 0x0000

/-- What follows the function code. -/
def Request.body : Request → List U8
  | .readCoils address count => word address ++ word count
  | .readDiscreteInputs address count => word address ++ word count
  | .readHoldingRegisters address count => word address ++ word count
  | .readInputRegisters address count => word address ++ word count
  | .writeCoil address on => word address ++ word (switch on)
  | .writeRegister address value => word address ++ word value
  | .writeCoils address values =>
      word address ++ word (BitVec.ofNat 16 values.length) ++
        [BitVec.ofNat 8 ((values.length + 7) / 8)] ++ bytesOf values.length (row values)
  | .writeRegisters address values =>
      word address ++ word (BitVec.ofNat 16 values.length) ++
        [BitVec.ofNat 8 (2 * values.length)] ++ words values
  | .readWriteRegisters readAddress readCount writeAddress values =>
      word readAddress ++ word readCount ++ word writeAddress ++
        word (BitVec.ofNat 16 values.length) ++ [BitVec.ofNat 8 (2 * values.length)] ++ words values
  | .reportSlaveId => []

def Request.pdu (request : Request) : List U8 := request.code :: request.body

inductive Response
  | bits (code : U8) (count : Nat) (values : Nat → Bool)
  | registers (code : U8) (values : List U16)
  | done (code : U8) (address value : U16)
  | slaveId (data : List U8)
  | exception (code : U8) (eException : MBException)

def Response.pdu : Response → List U8
  | .bits code count values =>
      [code, BitVec.ofNat 8 ((count + 7) / 8)] ++
        bytesOf count fun index => decide (index < count) && values index
  | .registers code values => [code, BitVec.ofNat 8 (2 * values.length)] ++ words values
  | .done code address value => [code] ++ word address ++ word value
  | .slaveId data => mbFuncOtherReportSlaveid :: data
  | .exception code eException => [code ||| mbFuncError, eException]

/-- The registers of a block are known by their numbers. -/
structure Bank where
  coils : Nat → Bool
  discreteInputs : Nat → Bool
  holding : Nat → U16
  input : Nat → U16
  turbidity : U32
  slaveId : List U8

namespace Bank

/-- The first two registers of a block show the turbidity, whatever was written to them. -/
def shown (bank : Bank) (block : Nat → U16) (register : Nat) : U16 :=
  if register = 100 then Word.highWord bank.turbidity
  else if register = 101 then Word.lowWord bank.turbidity
  else block register

def InBits (address : U16) (count : Nat) : Prop := address.toNat + count ≤ 16

instance (address : U16) (count : Nat) : Decidable (InBits address count) :=
  inferInstanceAs (Decidable (_ ≤ _))

def InBlock (address : U16) (count : Nat) : Prop :=
  100 ≤ address.toNat ∧ address.toNat + count ≤ 110

instance (address : U16) (count : Nat) : Decidable (InBlock address count) :=
  inferInstanceAs (Decidable (_ ∧ _))

def readBits (code : U8) (bits : Nat → Bool) (address count : U16) : Response :=
  if 1 ≤ count.toNat ∧ count.toNat < 0x07D0 then
    if InBits address count.toNat then
      .bits code count.toNat fun index => bits (address.toNat + index)
    else .exception code exIllegalDataAddress
  else .exception code exIllegalDataValue

def readBlock (bank : Bank) (code : U8) (most : Nat) (block : Nat → U16) (address count : U16) :
    Response :=
  if 1 ≤ count.toNat ∧ count.toNat ≤ most then
    if InBlock address count.toNat then
      .registers code ((List.range count.toNat).map fun index =>
        bank.shown block (address.toNat + index))
    else .exception code exIllegalDataAddress
  else .exception code exIllegalDataValue

def setBits (bits : Nat → Bool) (address : U16) (values : List Bool) : Nat → Bool := fun index =>
  if address.toNat ≤ index ∧ index < address.toNat + values.length then
    row values (index - address.toNat)
  else bits index

def setBlock (block : Nat → U16) (address : U16) (values : List U16) : Nat → U16 := fun register =>
  if address.toNat ≤ register ∧ register < address.toNat + values.length then
    values.getD (register - address.toNat) 0
  else block register

def writeBits (bank : Bank) (code : U8) (address : U16) (values : List Bool) (value : U16) :
    Bank × Response :=
  if InBits address values.length then
    ({ bank with coils := setBits bank.coils address values }, .done code address value)
  else (bank, .exception code exIllegalDataAddress)

def writeBlock (bank : Bank) (code : U8) (address : U16) (values : List U16) (value : U16) :
    Bank × Response :=
  if InBlock address values.length then
    ({ bank with holding := setBlock bank.holding address values }, .done code address value)
  else (bank, .exception code exIllegalDataAddress)

def serve (bank : Bank) (request : Request) : Bank × Response :=
  let code := request.code
  match request with
  | .readCoils address count => (bank, readBits code bank.coils address count)
  | .readDiscreteInputs address count => (bank, readBits code bank.discreteInputs address count)
  | .readHoldingRegisters address count =>
      (bank, bank.readBlock code 0x7D bank.holding address count)
  | .readInputRegisters address count => (bank, bank.readBlock code 0x7C bank.input address count)
  | .writeCoil address on => bank.writeBits code address [on] (switch on)
  | .writeRegister address value => bank.writeBlock code address [value] value
  | .writeCoils address values =>
      if 1 ≤ values.length ∧ values.length ≤ 0x07B0 then
        bank.writeBits code address values (BitVec.ofNat 16 values.length)
      else (bank, .exception code exIllegalDataValue)
  | .writeRegisters address values =>
      if 1 ≤ values.length ∧ values.length ≤ 0x78 then
        bank.writeBlock code address values (BitVec.ofNat 16 values.length)
      else (bank, .exception code exIllegalDataValue)
  | .readWriteRegisters readAddress readCount writeAddress values =>
      if 1 ≤ readCount.toNat ∧ readCount.toNat ≤ 0x7D ∧
          1 ≤ values.length ∧ values.length ≤ 0x79 then
        if InBlock writeAddress values.length then
          -- the registers stay written when the reading fails
          let written := { bank with holding := setBlock bank.holding writeAddress values }
          (written, written.readBlock code 0x7D written.holding readAddress readCount)
        else (bank, .exception code exIllegalDataAddress)
      else (bank, .exception code exIllegalDataValue)
  | .reportSlaveId => (bank, .slaveId bank.slaveId)

end Bank

/-- The variables of the slave hold the bank; the first two registers of a block hold any
turbidity there has been. -/
structure Represents (data : SlaveData) (bank : Bank) : Prop where
  coils : bitAt data.ucSCoilBuf = bank.coils
  discreteInputs : bitAt data.ucSDiscInBuf = bank.discreteInputs
  holding : ∀ register, 102 ≤ register → data.usSRegHoldBuf (register - 100) = bank.holding register
  input : ∀ register, 102 ≤ register → data.usSRegInBuf (register - 100) = bank.input register
  turbidity : data.zhuoduData.readFloat .turbidimeter = bank.turbidity
  slaveId : data.slaveId.ucMBSlaveID.load 0 data.slaveId.usMBSlaveIDLen = bank.slaveId

/-- What the variables hold, read as a bank. -/
def bankOf (data : SlaveData) : Bank where
  coils := bitAt data.ucSCoilBuf
  discreteInputs := bitAt data.ucSDiscInBuf
  holding register := data.usSRegHoldBuf (register - 100)
  input register := data.usSRegInBuf (register - 100)
  turbidity := data.zhuoduData.readFloat .turbidimeter
  slaveId := data.slaveId.ucMBSlaveID.load 0 data.slaveId.usMBSlaveIDLen

theorem represents_bankOf (data : SlaveData) : Represents data (bankOf data) :=
  ⟨rfl, rfl, fun _ _ => rfl, fun _ _ => rfl, rfl, rfl⟩

section Packing

variable {memory : Memory U8} {position : Nat}

theorem part_zero (frame : Memory U8) : part frame 0 = frame := by
  funext index
  rw [part, Nat.zero_add]

theorem part_holds {frame : Memory U8} {offset : Nat} {values : List U8} :
    (part frame offset).Holds 0 values ↔ frame.Holds offset values := by
  rw [Memory.holds_iff, Memory.holds_iff]
  refine forall_congr' fun index => forall_congr' fun _ => ?_
  rw [part, Nat.zero_add]

theorem row_behind {values : List Bool} {index : Nat} (behind : values.length ≤ index) :
    row values index = false := by
  rw [row, List.getD_eq_getElem?_getD, List.getElem?_eq_none behind]
  rfl

theorem getLsbD_byteOf (bits : Nat → Bool) {index : Nat} (inside : index < 8) :
    (byteOf bits).getLsbD index = bits index :=
  BitVec.getLsbD_ofBoolListLE.trans (by simp [inside])

@[simp] theorem length_bytesOf (count : Nat) (bits : Nat → Bool) :
    (bytesOf count bits).length = (count + 7) / 8 := by
  simp [bytesOf]

@[simp] theorem length_words (values : List U16) : (words values).length = 2 * values.length := by
  induction values with
  | nil => rfl
  | cons value rest ih =>
      rw [words, List.flatMap_cons, List.length_append, List.length_cons]
      rw [words] at ih
      rw [ih]
      simp only [word, List.length_cons, List.length_nil]
      omega

theorem holds_bytesOf {count : Nat} {bits : Nat → Bool} :
    memory.Holds position (bytesOf count bits) ↔
      ∀ index < 8 * ((count + 7) / 8), bitAt (part memory position) index = bits index := by
  rw [Memory.holds_iff]
  simp only [length_bytesOf]
  constructor
  · intro holds index inside
    have place : index / 8 < (count + 7) / 8 := by omega
    have rest : index % 8 < 8 := Nat.mod_lt _ (by decide)
    have byte := holds (index / 8) place
    simp only [bytesOf, List.getElem_map, List.getElem_range] at byte
    rw [bitAt, part, byte, getLsbD_byteOf _ rest, Nat.div_add_mod]
  · intro all place inside
    simp only [bytesOf, List.getElem_map, List.getElem_range]
    apply BitVec.eq_of_getLsbD_eq
    intro index small
    rw [getLsbD_byteOf _ small, ← all _ (by omega), bitAt_byte _ _ small]
    rfl

theorem holds_word {value : U16} :
    memory.Holds position (word value) ↔ pduWord memory position = value := by
  rw [word, Memory.holds_cons, Memory.holds_cons, pduWord]
  constructor
  · rintro ⟨high, low, _⟩
    rw [high, low, Word.bigEndian_bytes]
  · rintro rfl
    rw [Word.highByte_bigEndian, Word.lowByte_bigEndian]
    exact ⟨rfl, rfl, Memory.holds_nil ..⟩

theorem holds_words {values : List U16} :
    memory.Holds position (words values) ↔
      ∀ index (inside : index < values.length), pduWord memory (position + 2 * index) =
        values[index] := by
  induction values generalizing position with
  | nil => simp [words]
  | cons value rest ih =>
      have split : words (value :: rest) = word value ++ words rest := rfl
      rw [split, Memory.holds_append, holds_word, ih]
      constructor
      · rintro ⟨first, later⟩ index inside
        cases index with
        | zero => exact first
        | succ index =>
            have place : position + 2 * (index + 1) = position + 2 + 2 * index := by omega
            rw [place]
            exact later index (Nat.lt_of_succ_lt_succ inside)
      · intro all
        refine ⟨all 0 (Nat.zero_lt_succ _), fun index inside => ?_⟩
        have place : position + 2 + 2 * index = position + 2 * (index + 1) := by omega
        exact (congrArg (pduWord memory) place).trans (all (index + 1) (Nat.succ_lt_succ inside))

end Packing

/-- What a handler's result is sent as. -/
def reply (code : U8) (result : HandlerResult SlaveData) : List U8 :=
  if result.eException ≠ exNone then [code ||| mbFuncError, result.eException]
  else result.pucFrame.load 0 result.usLen

/-- The result of a handler is what the bank gives. -/
structure Serves (code : U8) (result : HandlerResult SlaveData) (served : Bank × Response) :
    Prop where
  represents : Represents result.app served.1
  answer : reply code result = served.2.pdu

section Reading

variable {data : SlaveData} {bank : Bank} {pucFrame : Memory U8} {code : U8}
variable {address count : U16}

theorem Serves.refused {served : Bank} {eException : MBException} {frame : Memory U8} {usLen : Nat}
    (failed : eException ≠ exNone) (represents : Represents data served) :
    Serves code ⟨eException, data, frame, usLen⟩ (served, .exception code eException) :=
  ⟨represents, if_pos failed⟩

theorem Serves.accepted {response : Response} {frame : Memory U8} {usLen : Nat}
    (represents : Represents data bank) (answer : frame.load 0 usLen = response.pdu) :
    Serves code ⟨exNone, data, frame, usLen⟩ (bank, response) :=
  ⟨represents, (if_neg fun failed => failed rfl).trans answer⟩

theorem illegalDataValue_failed : exIllegalDataValue ≠ exNone := by decide

theorem illegalDataAddress_failed : exIllegalDataAddress ≠ exNone := by decide

/-- What a callback that reads leaves: the registers or bits at the start of the buffer, or a
refusal. -/
structure Reads (filled : Filled) (bank : Bank) (inside : Prop) (values : List U8) : Prop where
  represents : Represents filled.data bank
  accepted : inside → filled.eRegStatus = .enoerr ∧ filled.pucRegBuffer.Holds 0 values
  refused : ¬ inside → filled.eRegStatus = .enoreg

theorem withPart_load (frame rest : Memory U8) {first second : U8} {values : List U8} {usLen : Nat}
    (length : usLen = 2 + values.length) (holds : rest.Holds 0 values) :
    (withPart ((frame.set 0 first).set 1 second) 2 rest).load 0 usLen =
      [first, second] ++ values := by
  have whole : usLen = ([first, second] ++ values).length :=
    length.trans (Nat.add_comm 2 _)
  rw [whole]
  refine Memory.holds_append.mpr ⟨?_, ?_⟩
  · exact Memory.holds_cons.mpr ⟨rfl, Memory.holds_cons.mpr ⟨rfl, Memory.holds_nil ..⟩⟩
  · rw [Memory.holds_iff] at holds ⊢
    intro index inside
    have behind : ¬ 0 + [first, second].length + index < 2 := by
      simp only [List.length_cons, List.length_nil]
      omega
    have place : 0 + [first, second].length + index - 2 = 0 + index := by
      simp only [List.length_cons, List.length_nil]
      omega
    rw [withPart, if_neg behind, place]
    exact holds index inside

theorem ReadFunction.handle_serves {function : ReadFunction} {inside valid : Prop}
    [Decidable inside] [Decidable valid] {response : Response} {values : List U8}
    (holds : pucFrame.Holds 0 (code :: (word address ++ word count)))
    (represents : Represents data bank) (same : function.valid count = true ↔ valid)
    (reads : ∀ buffer, Reads (function.callback data buffer (address + 1) count) bank inside values)
    (length : valid → function.more count = values.length)
    (answer : response.pdu = [function.ucFunctionCode, function.ucNBytes count] ++ values) :
    Serves code (function.handle data pucFrame 5)
      (bank, if valid then
        if inside then response else .exception code exIllegalDataAddress
        else .exception code exIllegalDataValue) := by
  obtain ⟨_, body⟩ := Memory.holds_cons.mp holds
  obtain ⟨first, second⟩ := Memory.holds_append.mp body
  have addressed : pduWord pucFrame 1 = address := holds_word.mp first
  have counted : pduWord pucFrame 3 = count := holds_word.mp second
  unfold ReadFunction.handle
  simp only [addressed, counted, if_true]
  by_cases accepted : valid
  · rw [if_pos accepted, if_pos (same.mpr accepted)]
    have read := reads (part ((pucFrame.set 0 function.ucFunctionCode).set 1
      (function.ucNBytes count)) 2)
    by_cases within : inside
    · obtain ⟨status, filled⟩ := read.accepted within
      rw [status, if_pos within]
      exact .accepted read.represents
        ((withPart_load _ _ (congrArg (2 + ·) (length accepted)) filled).trans answer.symm)
    · rw [read.refused within, if_neg within]
      exact .refused illegalDataAddress_failed read.represents
  · have rejected : ¬ function.valid count = true := fun valid => accepted (same.mp valid)
    rw [if_neg accepted, if_neg rejected]
    exact .refused illegalDataValue_failed represents

theorem inBits_iff (usAddress usCount : U16) (start ncoils : U16) (zero : start = 0)
    (sixteen : ncoils = 16) :
    HoldingRange.Accepts ⟨start, ncoils⟩ (usAddress + 1 - 1) usCount ↔
      Bank.InBits usAddress usCount.toNat := by
  subst zero sixteen
  rw [BitVec.add_sub_cancel]
  constructor
  · exact fun accepted => Nat.le_trans accepted.2 (by decide)
  · exact fun inside => ⟨Nat.zero_le _, inside⟩

theorem readBank_holds {bank : Memory U8} {bits : Nat → Bool} (same : bitAt bank = bits)
    (first usNBits : U16) (buffer : Memory U8) :
    (readBank bank first usNBits buffer).Holds 0 (bytesOf usNBits.toNat fun index =>
      decide (index < usNBits.toNat) && bits (first.toNat + index)) := by
  rw [holds_bytesOf]
  intro index inside
  rw [part_zero, bitAt_readBank, if_pos (by omega), same]

theorem coilsCB_reads (represents : Represents data bank) (buffer : Memory U8) :
    Reads (data.coilsCB .read buffer (address + 1) count) bank
      (Bank.InBits address count.toNat)
      (bytesOf count.toNat fun index =>
        decide (index < count.toNat) && bank.coils (address.toNat + index)) := by
  have range := inBits_iff address count sCoilStart sCoilNcoils rfl rfl
  unfold SlaveData.coilsCB eMBRegCoilsCB
  simp only [BitVec.add_sub_cancel] at range ⊢
  by_cases inside : Bank.InBits address count.toNat
  · rw [if_pos (range.mpr inside)]
    refine ⟨represents, fun _ => ⟨rfl, ?_⟩, fun outside => absurd inside outside⟩
    have first : address - sCoilStart = address := BitVec.sub_zero _
    rw [first]
    exact readBank_holds represents.coils _ _ _
  · rw [if_neg fun accepted => inside (range.mp accepted)]
    exact ⟨represents, fun within => absurd within inside, fun _ => rfl⟩

theorem discreteCB_reads (represents : Represents data bank) (buffer : Memory U8) :
    Reads (data.discreteCB buffer (address + 1) count) bank
      (Bank.InBits address count.toNat)
      (bytesOf count.toNat fun index =>
        decide (index < count.toNat) && bank.discreteInputs (address.toNat + index)) := by
  have range := inBits_iff address count sDiscreteInputStart sDiscreteInputNdiscretes rfl rfl
  unfold SlaveData.discreteCB eMBRegDiscreteCB
  simp only [BitVec.add_sub_cancel] at range ⊢
  by_cases inside : Bank.InBits address count.toNat
  · rw [if_pos (range.mpr inside)]
    refine ⟨represents, fun _ => ⟨rfl, ?_⟩, fun outside => absurd inside outside⟩
    have first : address - sDiscreteInputStart = address := BitVec.sub_zero _
    rw [first]
    exact readBank_holds represents.discreteInputs _ _ _
  · rw [if_neg fun accepted => inside (range.mp accepted)]
    exact ⟨represents, fun within => absurd within inside, fun _ => rfl⟩

theorem publish_shown {zhuoduData : Zhuodu} {registers : Memory U16} {block : Nat → U16}
    (held : ∀ register, 102 ≤ register → registers (register - 100) = block register)
    (turbidity : zhuoduData.readFloat .turbidimeter = bank.turbidity) {register : Nat}
    (least : 100 ≤ register) :
    publish zhuoduData registers (register - 100) = bank.shown block register := by
  obtain ⟨high, low⟩ := publish_first zhuoduData registers
  unfold Bank.shown
  by_cases first : register = 100
  · rw [if_pos first, first, ← turbidity]
    exact high
  · rw [if_neg first]
    by_cases second : register = 101
    · rw [if_pos second, second, ← turbidity]
      exact low
    · rw [if_neg second, publish_behind (by omega)]
      exact held register (by omega)

/-- A block is read in the same way, whichever it is. -/
theorem eMBRegInputCB_reads {zhuoduData : Zhuodu} {registers : Memory U16} {block : Nat → U16}
    (held : ∀ register, 102 ≤ register → registers (register - 100) = block register)
    (turbidity : zhuoduData.readFloat .turbidimeter = bank.turbidity) (buffer : Memory U8) :
    let result := eMBRegInputCB registers zhuoduData buffer (address + 1) count
    (Bank.InBlock address count.toNat → result.status = .enoerr ∧
      result.pucRegBuffer.Holds 0 (words ((List.range count.toNat).map fun index =>
        bank.shown block (address.toNat + index)))) ∧
      (¬ Bank.InBlock address count.toNat → result.status = .enoreg) ∧
      ∀ register, 102 ≤ register → result.registers (register - 100) = block register := by
  have range : HoldingRange.Accepts ⟨sRegInputStart, sRegInputNregs⟩ (address + 1 - 1) count ↔
      Bank.InBlock address count.toNat := by
    rw [BitVec.add_sub_cancel]
    exact Iff.rfl
  refine ⟨fun inside => ⟨?_, ?_⟩, fun outside => ?_, fun register behind => ?_⟩
  · unfold eMBRegInputCB
    simp only [if_pos (range.mpr inside)]
  · rw [holds_words]
    intro index small
    rw [List.length_map, List.length_range] at small
    have lower : (address + 1 - 1).toNat ≤ address.toNat + index := by
      rw [BitVec.add_sub_cancel]
      exact Nat.le_add_right ..
    have upper : address.toNat + index < (address + 1 - 1).toNat + count.toNat := by
      rw [BitVec.add_sub_cancel]
      exact Nat.add_lt_add_left small _
    have bytes := input_read registers zhuoduData buffer (range.mpr inside) lower upper
    have shown : publish zhuoduData registers (address.toNat + index - sRegInputStart.toNat) =
        bank.shown block (address.toNat + index) :=
      publish_shown held turbidity (Nat.le_add_right_of_le inside.1)
    have place : address.toNat + index - (address + 1 - 1).toNat = index := by
      rw [BitVec.add_sub_cancel, Nat.add_sub_cancel_left]
    simp only [place, shown] at bytes
    rw [pduWord, Nat.zero_add, bytes.1, bytes.2, Word.bigEndian_bytes, List.getElem_map,
      List.getElem_range]
  · unfold eMBRegInputCB
    simp only [if_neg fun accepted => outside (range.mp accepted)]
  · unfold eMBRegInputCB
    simp only
    split
    · exact (publish_behind (by omega)).trans (held register behind)
    · exact held register behind

theorem inputCB_reads (represents : Represents data bank) (buffer : Memory U8) :
    Reads (data.inputCB buffer (address + 1) count) bank (Bank.InBlock address count.toNat)
      (words ((List.range count.toNat).map fun index =>
        bank.shown bank.input (address.toNat + index))) := by
  obtain ⟨accepted, refused, kept⟩ :=
    @eMBRegInputCB_reads bank address count _ _ _ represents.input represents.turbidity buffer
  exact ⟨{ represents with input := kept }, accepted, refused⟩

theorem holdingCB_reads (represents : Represents data bank) (buffer : Memory U8) :
    Reads (data.holdingCB .read buffer (address + 1) count) bank
      (Bank.InBlock address count.toNat)
      (words ((List.range count.toNat).map fun index =>
        bank.shown bank.holding (address.toNat + index))) := by
  obtain ⟨accepted, refused, kept⟩ :=
    @eMBRegInputCB_reads bank address count _ _ _ represents.holding represents.turbidity buffer
  unfold SlaveData.holdingCB
  rw [holding_read_eq_input]
  exact ⟨{ represents with holding := kept }, accepted, refused⟩

theorem byteCount_eq (usCoilCount : U16) :
    byteCount usCoilCount = BitVec.ofNat 8 ((usCoilCount.toNat + 7) / 8) := by
  have rest : (usCoilCount &&& 0x0007).toNat = usCoilCount.toNat % 8 := by
    rw [BitVec.toNat_and]
    exact Nat.and_two_pow_sub_one_eq_mod _ 3
  have whole : usCoilCount &&& 0x0007 ≠ 0 ↔ usCoilCount.toNat % 8 ≠ 0 := by
    rw [← rest]
    exact not_congr (BitVec.toNat_inj (y := 0)).symm
  unfold byteCount
  by_cases some : usCoilCount.toNat % 8 ≠ 0
  · rw [if_pos (whole.mpr some)]
    congr 1
    omega
  · rw [if_neg fun rest => some (whole.mp rest)]
    congr 1
    omega

theorem byteCount_toNat {usCoilCount : U16} (valid : usCoilCount.toNat < 0x07D0) :
    (byteCount usCoilCount).toNat = (usCoilCount.toNat + 7) / 8 := by
  rw [byteCount_eq, BitVec.toNat_ofNat]
  omega

theorem readCoils_serves (represents : Represents data bank)
    (holds : pucFrame.Holds 0 (Request.readCoils address count).pdu) :
    Serves mbFuncReadCoils (eMBFuncReadCoils data pucFrame 5)
      (bank.serve (.readCoils address count)) := by
  refine ReadFunction.handle_serves holds represents decide_eq_true_iff
    (coilsCB_reads represents) ?_ ?_
  · intro valid
    rw [length_bytesOf]
    exact byteCount_toNat valid.2
  · exact congrArg (fun bytes => [mbFuncReadCoils, bytes] ++ _) (byteCount_eq count).symm

theorem readDiscreteInputs_serves (represents : Represents data bank)
    (holds : pucFrame.Holds 0 (Request.readDiscreteInputs address count).pdu) :
    Serves mbFuncReadDiscreteInputs (eMBFuncReadDiscreteInputs data pucFrame 5)
      (bank.serve (.readDiscreteInputs address count)) := by
  refine ReadFunction.handle_serves holds represents decide_eq_true_iff
    (discreteCB_reads represents) ?_ ?_
  · intro valid
    rw [length_bytesOf]
    exact byteCount_toNat valid.2
  · exact congrArg (fun bytes => [mbFuncReadDiscreteInputs, bytes] ++ _) (byteCount_eq count).symm

theorem readHoldingRegisters_serves (represents : Represents data bank)
    (holds : pucFrame.Holds 0 (Request.readHoldingRegisters address count).pdu) :
    Serves mbFuncReadHoldingRegister (eMBFuncReadHoldingRegister data pucFrame 5)
      (bank.serve (.readHoldingRegisters address count)) := by
  refine ReadFunction.handle_serves holds represents decide_eq_true_iff
    (holdingCB_reads represents) ?_ ?_
  · intro _
    rw [length_words, List.length_map, List.length_range]
    exact Nat.mul_comm ..
  · rw [Response.pdu, List.length_map, List.length_range, Nat.mul_comm]
    rfl

theorem readInputRegisters_serves (represents : Represents data bank)
    (holds : pucFrame.Holds 0 (Request.readInputRegisters address count).pdu) :
    Serves mbFuncReadInputRegister (eMBFuncReadInputRegister data pucFrame 5)
      (bank.serve (.readInputRegisters address count)) := by
  have valid : decide (1 ≤ count.toNat ∧ count.toNat < 0x007D) = true ↔
      1 ≤ count.toNat ∧ count.toNat ≤ 0x7C := by
    rw [decide_eq_true_iff]
    exact and_congr_right fun _ => Nat.lt_succ_iff
  refine ReadFunction.handle_serves holds represents valid (inputCB_reads represents) ?_ ?_
  · intro _
    rw [length_words, List.length_map, List.length_range]
    exact Nat.mul_comm ..
  · rw [Response.pdu, List.length_map, List.length_range, Nat.mul_comm]
    rfl

end Reading

section Writing

variable {data : SlaveData} {bank : Bank} {pucFrame : Memory U8} {code : U8}
variable {address : U16}

/-- What a callback that writes leaves. -/
structure Writes (filled : Filled) (bank written : Bank) (inside : Prop) : Prop where
  accepted : inside → filled.eRegStatus = .enoerr ∧ Represents filled.data written
  refused : ¬ inside → filled.eRegStatus = .enoreg ∧ Represents filled.data bank

theorem Writes.serves {filled : Filled} {written : Bank} {inside : Prop} [Decidable inside]
    (writes : Writes filled bank written inside) {response : Response} {failed usLen : Nat}
    (answer : pucFrame.load 0 usLen = response.pdu) :
    Serves code (answerWrite filled pucFrame failed usLen)
      (if inside then (written, response)
        else (bank, .exception code exIllegalDataAddress)) := by
  unfold answerWrite
  by_cases within : inside
  · obtain ⟨status, represents⟩ := writes.accepted within
    rw [status, if_pos within]
    exact .accepted represents answer
  · obtain ⟨status, represents⟩ := writes.refused within
    rw [status, if_neg within]
    exact .refused illegalDataAddress_failed represents

theorem coilsCB_writes (represents : Represents data bank) {values : List Bool}
    (few : values.length < 65536) {buffer : Memory U8}
    (holds : buffer.Holds 0 (bytesOf values.length (row values))) :
    Writes (data.coilsCB .write buffer (address + 1) (BitVec.ofNat 16 values.length)) bank
      { bank with coils := Bank.setBits bank.coils address values }
      (Bank.InBits address values.length) := by
  let call : CoilsCall := ⟨buffer, address + 1, BitVec.ofNat 16 values.length, .write⟩
  have count : call.count = values.length := by
    exact (BitVec.toNat_ofNat ..).trans (Nat.mod_eq_of_lt few)
  have start : call.start = address.toNat := congrArg BitVec.toNat (BitVec.add_sub_cancel ..)
  rw [holds_bytesOf] at holds
  have padded : call.Padded := by
    intro _ index behind inside
    rw [count] at behind inside
    have byte := holds index inside
    rw [part_zero] at byte
    exact byte.trans (row_behind behind)
  obtain ⟨coils, answer⟩ := serveCoils_refines call represents.coils padded
  have status : (data.coilsCB .write buffer (address + 1)
      (BitVec.ofNat 16 values.length)).eRegStatus = (serveBits bank.coils call).2.status :=
    congrArg CoilsAnswer.status answer
  have kept : bitAt (data.coilsCB .write buffer (address + 1)
      (BitVec.ofNat 16 values.length)).data.ucSCoilBuf = (serveBits bank.coils call).1 := coils
  have range : call.start + call.count ≤ 16 ↔ Bank.InBits address values.length := by
    rw [start, count]
    exact Iff.rfl
  refine ⟨fun inside => ?_, fun outside => ?_⟩
  · rw [serveBits, if_pos (range.mpr inside)] at status kept
    refine ⟨status, { represents with coils := kept.trans (funext fun index => ?_) }⟩
    change (if call.start ≤ index ∧ index < call.start + call.count then
      bitAt buffer (index - call.start) else bank.coils index) =
        Bank.setBits bank.coils address values index
    unfold Bank.setBits
    rw [start, count]
    by_cases named : address.toNat ≤ index ∧ index < address.toNat + values.length
    · rw [if_pos named, if_pos named]
      have byte := holds (index - address.toNat) (by omega)
      rw [part_zero] at byte
      exact byte
    · rw [if_neg named, if_neg named]
  · rw [serveBits, if_neg fun inside => outside (range.mp inside)] at status kept
    exact ⟨status, { represents with coils := kept }⟩

theorem holdingCB_writes (represents : Represents data bank) {values : List U16}
    (few : values.length < 65536) {buffer : Memory U8} (holds : buffer.Holds 0 (words values)) :
    Writes (data.holdingCB .write buffer (address + 1) (BitVec.ofNat 16 values.length)) bank
      { bank with holding := Bank.setBlock bank.holding address values }
      (Bank.InBlock address values.length) := by
  have count : (BitVec.ofNat 16 values.length).toNat = values.length :=
    (BitVec.toNat_ofNat ..).trans (Nat.mod_eq_of_lt few)
  have range : HoldingRange.Accepts ⟨sRegHoldingStart, sRegHoldingNregs⟩ (address + 1 - 1)
      (BitVec.ofNat 16 values.length) ↔ Bank.InBlock address values.length := by
    rw [BitVec.add_sub_cancel, HoldingRange.Accepts, count]
    exact Iff.rfl
  rw [holds_words] at holds
  unfold SlaveData.holdingCB eMBRegHoldingCB
  refine ⟨fun inside => ?_, fun outside => ?_⟩
  · simp only [if_pos (range.mpr inside)]
    refine ⟨trivial, { represents with holding := fun register behind => ?_ }⟩
    obtain ⟨least, most⟩ := inside
    have index : (address + 1 - 1 - sRegHoldingStart).toNat = address.toNat - 100 := by
      rw [BitVec.add_sub_cancel]
      exact BitVec.toNat_sub_of_le (BitVec.le_def.mpr least)
    have bound : (address + 1 - 1 - sRegHoldingStart).toNat + values.length < 65536 := by omega
    have stored := @fillRow_stored (publish data.zhuoduData data.usSRegHoldBuf) buffer
      values.length (register - 100) _ bound
    simp only [count, stored, index, Bank.setBlock]
    by_cases named : address.toNat ≤ register ∧ register < address.toNat + values.length
    · have place : register - 100 - (address.toNat - 100) = register - address.toNat := by omega
      have inside : register - address.toNat < values.length := by omega
      rw [if_pos (by omega), if_pos named, place, List.getD_eq_getElem?_getD,
        List.getElem?_eq_getElem inside, ← holds _ inside, pduWord, Nat.zero_add]
      rfl
    · rw [if_neg (by omega), if_neg named, publish_behind (by omega)]
      exact represents.holding register behind
  · simp only [if_neg fun accepted => outside (range.mp accepted)]
    exact ⟨trivial, represents⟩

theorem switch_bytes (on : Bool) :
    Word.highByte (switch on) = (if on then 0xFF else 0x00) ∧ Word.lowByte (switch on) = 0 := by
  cases on with
  | false => decide
  | true => decide

theorem writeCoil_serves {on : Bool} (represents : Represents data bank)
    (holds : pucFrame.Holds 0 (Request.writeCoil address on).pdu) :
    Serves mbFuncWriteSingleCoil (eMBFuncWriteCoil data pucFrame 5)
      (bank.serve (.writeCoil address on)) := by
  obtain ⟨_, body⟩ := Memory.holds_cons.mp holds
  obtain ⟨first, second⟩ := Memory.holds_append.mp body
  have addressed : pduWord pucFrame 1 = address := holds_word.mp first
  obtain ⟨high, low, _⟩ := Memory.holds_cons.mp second |>.imp_right Memory.holds_cons.mp
  obtain ⟨highByte, lowByte⟩ := switch_bytes on
  have value : pucFrame 3 = if on then 0xFF else 0x00 := high.trans highByte
  have zero : pucFrame 4 = 0x00 := low.trans lowByte
  have valid : pucFrame 4 = 0x00 ∧ (pucFrame 3 = 0xFF ∨ pucFrame 3 = 0x00) := by
    refine ⟨zero, ?_⟩
    cases on with
    | false => exact .inr value
    | true => exact .inl value
  let ucBuf : Memory U8 := fun index => if index = 0 ∧ pucFrame 3 = 0xFF then 1 else 0
  have buffer : ucBuf.Holds 0 (bytesOf [on].length (row [on])) := by
    simp only [ucBuf, value]
    cases on with
    | false => rfl
    | true => rfl
  unfold eMBFuncWriteCoil
  simp only [if_true, if_pos valid, addressed]
  have one : [on].length < 65536 := by simp
  exact (coilsCB_writes represents one buffer).serves holds

theorem writeRegister_serves {value : U16} (represents : Represents data bank)
    (holds : pucFrame.Holds 0 (Request.writeRegister address value).pdu) :
    Serves mbFuncWriteRegister (eMBFuncWriteHoldingRegister data pucFrame 5)
      (bank.serve (.writeRegister address value)) := by
  obtain ⟨_, body⟩ := Memory.holds_cons.mp holds
  obtain ⟨first, second⟩ := Memory.holds_append.mp body
  have addressed : pduWord pucFrame 1 = address := holds_word.mp first
  have buffer : (part pucFrame 3).Holds 0 (words [value]) := part_holds.mpr second
  unfold eMBFuncWriteHoldingRegister
  simp only [if_true, addressed]
  have one : [value].length < 65536 := by simp
  exact (holdingCB_writes represents one buffer).serves holds

theorem reportSlaveId_serves (represents : Represents data bank)
    (holds : pucFrame.Holds 0 Request.reportSlaveId.pdu) :
    Serves mbFuncOtherReportSlaveid (eMBFuncReportSlaveID data pucFrame 1)
      (bank.serve .reportSlaveId) := by
  refine .accepted represents ?_
  have code : pucFrame 0 = mbFuncOtherReportSlaveid := (Memory.holds_cons.mp holds).1
  have stored := Memory.holds_store pucFrame 1
    (data.slaveId.ucMBSlaveID.load 0 data.slaveId.usMBSlaveIDLen)
  rw [Memory.Holds, Memory.load_length] at stored
  rw [Nat.add_comm, Memory.load, Response.pdu, ← represents.slaveId]
  exact List.cons_eq_cons.mpr ⟨(Memory.store_outside _ _ _ (.inl Nat.zero_lt_one)).trans code, stored⟩

theorem writeCoils_serves {values : List Bool} {usLen : Nat} (represents : Represents data bank)
    (holds : pucFrame.Holds 0 (Request.writeCoils address values).pdu)
    (length : usLen = (Request.writeCoils address values).pdu.length) (short : usLen ≤ mbPduSizeMax) :
    Serves mbFuncWriteMultipleCoils (eMBFuncWriteMultipleCoils data pucFrame usLen)
      (bank.serve (.writeCoils address values)) := by
  have size : usLen = 6 + (values.length + 7) / 8 := by
    rw [length]
    simp only [Request.pdu, Request.body, List.length_cons, List.length_append, length_bytesOf,
      word, List.length_nil]
    omega
  have few : values.length < 65536 := by
    unfold mbPduSizeMax at short
    omega
  have count : (BitVec.ofNat 16 values.length).toNat = values.length :=
    (BitVec.toNat_ofNat ..).trans (Nat.mod_eq_of_lt few)
  obtain ⟨_, body⟩ := Memory.holds_cons.mp holds
  obtain ⟨front, buffer⟩ := Memory.holds_append.mp body
  obtain ⟨pair, bytes⟩ := Memory.holds_append.mp front
  obtain ⟨first, second⟩ := Memory.holds_append.mp pair
  have addressed : pduWord pucFrame 1 = address := holds_word.mp first
  have counted : pduWord pucFrame 3 = BitVec.ofNat 16 values.length := holds_word.mp second
  have byteCounted : pucFrame 5 = BitVec.ofNat 8 ((values.length + 7) / 8) :=
    (Memory.holds_cons.mp bytes).1
  have expected : byteCount (BitVec.ofNat 16 values.length) = pucFrame 5 := by
    rw [byteCount_eq, count, byteCounted]
  have long : 5 < usLen := by omega
  have answer : pucFrame.load 0 5 = (Response.done mbFuncWriteMultipleCoils address
      (BitVec.ofNat 16 values.length)).pdu :=
    Memory.holds_cons.mpr ⟨(Memory.holds_cons.mp holds).1, pair⟩
  unfold eMBFuncWriteMultipleCoils Bank.serve
  simp only [if_pos long, addressed, counted, expected, count, and_true]
  by_cases valid : 1 ≤ values.length ∧ values.length ≤ 0x07B0
  · rw [if_pos valid, if_pos valid]
    exact (coilsCB_writes represents few (part_holds.mpr buffer)).serves answer
  · rw [if_neg valid, if_neg valid]
    exact .refused illegalDataValue_failed represents

theorem writeRegisters_serves {values : List U16} {usLen : Nat} (represents : Represents data bank)
    (holds : pucFrame.Holds 0 (Request.writeRegisters address values).pdu)
    (length : usLen = (Request.writeRegisters address values).pdu.length)
    (short : usLen ≤ mbPduSizeMax) :
    Serves mbFuncWriteMultipleRegisters (eMBFuncWriteMultipleHoldingRegister data pucFrame usLen)
      (bank.serve (.writeRegisters address values)) := by
  have size : usLen = 6 + 2 * values.length := by
    rw [length]
    simp only [Request.pdu, Request.body, List.length_cons, List.length_append, length_words,
      word, List.length_nil]
    omega
  have few : values.length < 65536 := by
    unfold mbPduSizeMax at short
    omega
  have count : (BitVec.ofNat 16 values.length).toNat = values.length :=
    (BitVec.toNat_ofNat ..).trans (Nat.mod_eq_of_lt few)
  obtain ⟨_, body⟩ := Memory.holds_cons.mp holds
  obtain ⟨front, buffer⟩ := Memory.holds_append.mp body
  obtain ⟨pair, bytes⟩ := Memory.holds_append.mp front
  obtain ⟨first, second⟩ := Memory.holds_append.mp pair
  have addressed : pduWord pucFrame 1 = address := holds_word.mp first
  have counted : pduWord pucFrame 3 = BitVec.ofNat 16 values.length := holds_word.mp second
  have byteCounted : pucFrame 5 = BitVec.ofNat 8 (2 * values.length) :=
    (Memory.holds_cons.mp bytes).1
  have long : 6 ≤ usLen := by omega
  have answer : pucFrame.load 0 5 = (Response.done mbFuncWriteMultipleRegisters address
      (BitVec.ofNat 16 values.length)).pdu :=
    Memory.holds_cons.mpr ⟨(Memory.holds_cons.mp holds).1, pair⟩
  unfold eMBFuncWriteMultipleHoldingRegister Bank.serve
  simp only [if_pos long, addressed, counted, byteCounted, count, and_true]
  by_cases valid : 1 ≤ values.length ∧ values.length ≤ 0x78
  · rw [if_pos valid, if_pos valid]
    exact (holdingCB_writes represents few (part_holds.mpr buffer)).serves answer
  · rw [if_neg valid, if_neg valid]
    exact .refused illegalDataValue_failed represents

theorem readWriteRegisters_serves {readAddress readCount : U16} {values : List U16} {usLen : Nat}
    (represents : Represents data bank)
    (holds : pucFrame.Holds 0 (Request.readWriteRegisters readAddress readCount address values).pdu)
    (length : usLen = (Request.readWriteRegisters readAddress readCount address values).pdu.length)
    (short : usLen ≤ mbPduSizeMax) :
    Serves mbFuncReadwriteMultipleRegisters
      (eMBFuncReadWriteMultipleHoldingRegister data pucFrame usLen)
      (bank.serve (.readWriteRegisters readAddress readCount address values)) := by
  have size : usLen = 10 + 2 * values.length := by
    rw [length]
    simp only [Request.pdu, Request.body, List.length_cons, List.length_append, length_words,
      word, List.length_nil]
    omega
  have few : values.length ≤ 121 := by
    unfold mbPduSizeMax at short
    omega
  have count : (BitVec.ofNat 16 values.length).toNat = values.length :=
    (BitVec.toNat_ofNat ..).trans (Nat.mod_eq_of_lt (by omega))
  obtain ⟨_, body⟩ := Memory.holds_cons.mp holds
  obtain ⟨front, buffer⟩ := Memory.holds_append.mp body
  obtain ⟨four, bytes⟩ := Memory.holds_append.mp front
  obtain ⟨three, fourth⟩ := Memory.holds_append.mp four
  obtain ⟨pair, third⟩ := Memory.holds_append.mp three
  obtain ⟨first, second⟩ := Memory.holds_append.mp pair
  have readAddressed : pduWord pucFrame 1 = readAddress := holds_word.mp first
  have readCounted : pduWord pucFrame 3 = readCount := holds_word.mp second
  have addressed : pduWord pucFrame 5 = address := holds_word.mp third
  have counted : pduWord pucFrame 7 = BitVec.ofNat 16 values.length := holds_word.mp fourth
  have byteCounted : (pucFrame 9).toNat = 2 * values.length := by
    have byte : pucFrame 9 = BitVec.ofNat 8 (2 * values.length) := (Memory.holds_cons.mp bytes).1
    rw [byte, BitVec.toNat_ofNat]
    omega
  have long : 10 ≤ usLen := by omega
  unfold eMBFuncReadWriteMultipleHoldingRegister Bank.serve
  simp only [if_pos long, readAddressed, readCounted, addressed, counted, byteCounted, count,
    and_true]
  by_cases valid : 1 ≤ readCount.toNat ∧ readCount.toNat ≤ 0x7D ∧ 1 ≤ values.length ∧
      values.length ≤ 0x79
  · rw [if_pos valid, if_pos valid]
    have stored : (part pucFrame 10).Holds 0 (words values) := part_holds.mpr buffer
    have writes := @holdingCB_writes data bank address represents values (by omega) _ stored
    by_cases within : Bank.InBlock address values.length
    · obtain ⟨status, written⟩ := writes.accepted within
      have read := @holdingCB_reads _ _ readAddress readCount written
        (part ((pucFrame.set 0 mbFuncReadwriteMultipleRegisters).set 1
          (BitVec.ofNat 8 (readCount.toNat * 2))) 2)
      rw [if_pos status, if_pos within]
      unfold Bank.readBlock
      simp only [if_pos (show 1 ≤ readCount.toNat ∧ readCount.toNat ≤ 0x7D from
        ⟨valid.1, valid.2.1⟩)]
      by_cases readable : Bank.InBlock readAddress readCount.toNat
      · obtain ⟨done, filled⟩ := read.accepted readable
        rw [if_pos done, if_pos readable]
        refine .accepted read.represents ((withPart_load _ _ ?_ filled).trans ?_)
        · rw [length_words, List.length_map, List.length_range]
        · rw [Response.pdu, List.length_map, List.length_range, Nat.mul_comm]
          rfl
      · have refused := read.refused readable
        rw [refused, if_neg readable]
        exact .refused illegalDataAddress_failed read.represents
    · obtain ⟨status, kept⟩ := writes.refused within
      rw [if_neg within, status]
      exact .refused illegalDataAddress_failed kept
  · rw [if_neg valid, if_neg valid]
    exact .refused illegalDataValue_failed represents

end Writing

section Executing

variable {data : SlaveData} {bank : Bank} {request : Request} {usLength : Nat}

/-- The handlers answer a request as the bank does. -/
theorem dispatch_serves {ucMBFrame : Memory U8} (represents : Represents data bank)
    (holds : ucMBFrame.Holds 0 request.pdu) (length : usLength = request.pdu.length)
    (short : usLength ≤ mbPduSizeMax) :
    Serves request.code (dispatch slaveHandlers data ucMBFrame usLength) (bank.serve request) := by
  have code : ucMBFrame 0 = request.code := (Memory.holds_cons.mp holds).1
  unfold dispatch
  rw [code]
  cases request with
  | readCoils address count => exact length ▸ readCoils_serves represents holds
  | readDiscreteInputs address count => exact length ▸ readDiscreteInputs_serves represents holds
  | readHoldingRegisters address count =>
      exact length ▸ readHoldingRegisters_serves represents holds
  | readInputRegisters address count => exact length ▸ readInputRegisters_serves represents holds
  | writeCoil address on => exact length ▸ writeCoil_serves represents holds
  | writeRegister address value => exact length ▸ writeRegister_serves represents holds
  | writeCoils address values => exact writeCoils_serves represents holds length short
  | writeRegisters address values => exact writeRegisters_serves represents holds length short
  | readWriteRegisters readAddress readCount writeAddress values =>
      exact readWriteRegisters_serves represents holds length short
  | reportSlaveId => exact length ▸ reportSlaveId_serves represents holds

theorem withPdu_load (buffer pdu : Memory U8) (count : Nat) :
    (withPdu buffer pdu).load mbSerPduPduOff count = pdu.load 0 count := by
  apply List.ext_getElem
  · rw [Memory.load_length, Memory.load_length]
  · intro index inside _
    have behind : ¬ mbSerPduPduOff + index < mbSerPduPduOff := by omega
    rw [Memory.load_getElem, Memory.load_getElem, withPdu, withPart, if_neg behind,
      Nat.add_sub_cancel_left, Nat.zero_add]

/-- A request is answered unless it is a broadcast, and executed in either case. -/
theorem execute_serves {ucRcvAddress : U8} {buffer : Memory U8} (represents : Represents data bank)
    (holds : buffer.Holds mbSerPduPduOff request.pdu) (length : usLength = request.pdu.length)
    (short : usLength ≤ mbPduSizeMax) :
    let executed := execute slaveHandlers ucRcvAddress data buffer usLength
    Represents executed.app (bank.serve request).1 ∧
      (executed.replies = true ↔ ucRcvAddress ≠ mbAddressBroadcast) ∧
      (executed.replies = true →
        executed.buffer.load mbSerPduPduOff executed.usLength = (bank.serve request).2.pdu) := by
  have pdu : (pduOf buffer).Holds 0 request.pdu := part_holds.mpr holds
  obtain ⟨served, answer⟩ := dispatch_serves represents pdu length short
  have code : pduOf buffer 0 = request.code := (Memory.holds_cons.mp pdu).1
  unfold execute
  simp only [code]
  by_cases addressed : ucRcvAddress ≠ mbAddressBroadcast
  · rw [if_pos addressed]
    unfold reply at answer
    by_cases failed : (dispatch slaveHandlers data (pduOf buffer) usLength).eException ≠ exNone
    · rw [if_pos failed] at answer ⊢
      exact ⟨served, iff_of_true rfl addressed, fun _ => (withPdu_load ..).trans answer⟩
    · rw [if_neg failed] at answer ⊢
      exact ⟨served, iff_of_true rfl addressed, fun _ => (withPdu_load ..).trans answer⟩
  · rw [if_neg addressed]
    exact ⟨served, iff_of_false Bool.false_ne_true addressed, fun replies => nomatch replies⟩

end Executing

end ZhuoduControl.Modbus.Protocol
