import ZhuoduControl.Modbus.MessageThreadProperties
import ZhuoduControl.Modbus.MirrorDecoding
import ZhuoduControl.Modbus.SlaveRegisters

/-! The order of the two half-words of a `float` on its way to the measuring head and
back, and in what the slave side publishes. -/

set_option autoImplicit false

namespace ZhuoduControl.Modbus

open ZhuoduControl.Library
open ZhuoduControl.Data

/-- The data bytes with which a slave answers a poll of its registers from `first` on. -/
def registerFrame (registers : Memory U16) (first : Nat) : Memory U8 :=
  fun position =>
    if position % 2 = 0 then Word.highByte (registers (first + position / 2))
    else Word.lowByte (registers (first + position / 2))

theorem delivered_registerFrame (registers : Memory U16) {first register : Nat}
    (behind : first ≤ register) :
    delivered (registerFrame registers first) first register = registers register := by
  have place : first + (register - first) = register := Nat.add_sub_cancel' behind
  have high : (2 * (register - first)) % 2 = 0 := Nat.mul_mod_right 2 _
  have low : ¬ (2 * (register - first) + 1) % 2 = 0 := by omega
  have highIndex : 2 * (register - first) / 2 = register - first :=
    Nat.mul_div_cancel_left _ Nat.two_pos
  have lowIndex : (2 * (register - first) + 1) / 2 = register - first := by omega
  unfold delivered registerFrame
  rw [if_pos high, if_neg low, highIndex, lowIndex, place, Word.bigEndian_bytes]

/-- The `float` members of the block at `0x100`. -/
def IsCanbiFloat (field : Field) : Prop :=
  field.width = .float ∧ 0x105 ≤ field.register ∧ field.register + 1 ≤ 0x11C

instance (field : Field) : Decidable (IsCanbiFloat field) :=
  inferInstanceAs (Decidable (_ ∧ _))

theorem IsCanbiFloat.head {field : Field} (float : IsCanbiFloat field) : field ∈ headFields := by
  have checked : ∀ field ∈ Field.declared, IsCanbiFloat field → field ∈ headFields := by
    decide +kernel
  exact checked field (Field.mem_declared field) float

section WordOrder

variable {field : Field} {bits : U32}

theorem poll_returns_float (float : IsCanbiFloat field) {msg : ModbusMsg}
    (payload : msg.dat = .float bits) (stale : HoldingRange) (row : Row) (mirror : Mirror)
    (slave : Memory U16) :
    let answer := registerFrame (slave.store field.register msg.busWords) 0x100
    (poll stale row mirror .canbi answer).status = .enoerr ∧
      (poll stale row mirror .canbi answer).mirror.zhuoduData.read field = .float bits := by
  intro answer
  obtain ⟨status, settings⟩ := poll_canbi stale row mirror answer
  refine ⟨status, ?_⟩
  rw [settings, read_copied_head float.head]
  have stored := Value.decode_store (.float bits) slave field.register
  rw [← payload, ← msg.busWords_eq_registers, payload] at stored
  rw [float.1, ← stored]
  refine Width.decode_congr .float fun register lower _ => ?_
  exact delivered_registerFrame _ (Nat.le_trans (Nat.le_of_lt (by decide)) (Nat.le_trans float.2.1
    lower))

theorem echo_bytes {msg : ModbusMsg} (payload : msg.dat = .float bits) (sndBuf : Memory U8) :
    let data : Memory U8 := fun index => sndBuf.store 0 msg.pdu (6 + index)
    Word.bigEndian (data 0) (data 1) = Word.highWord bits ∧
      Word.bigEndian (data 2) (data 3) = Word.lowWord bits := by
  intro data
  have layout := ModbusMsg.pdu_float payload
  have image : ∀ index (bound : 6 + index < msg.pdu.length), data index = msg.pdu[6 + index] := by
    intro index bound
    have inside := sndBuf.store_inside 0 msg.pdu (6 + index) bound
    rwa [Nat.zero_add] at inside
  rw [image 0 (by simp [layout]), image 1 (by simp [layout]), image 2 (by simp [layout]),
    image 3 (by simp [layout])]
  simp [layout]

theorem echo_returns_float (float : IsCanbiFloat field) {msg : ModbusMsg}
    (address : msg.dataAddr = field.address) (payload : msg.dat = .float bits)
    (others : OtherHandlers) (stale : HoldingRange) (row : Row) (mirror : Mirror)
    (sndBuf ucMBFrame : Memory U8) {usLength : U16}
    (normal : Answer.Normal msg (.frame stale ucMBFrame usLength)) :
    let executed := eMBMasterPollExecute others stale row ⟨mirror, sndBuf.store 0 msg.pdu⟩
      ucMBFrame usLength
    executed.1 = exNone ∧ executed.2.zhuoduData.read field = .float bits := by
  intro executed
  have register : msg.dataAddr.toNat = field.register := by rw [address, field.address_toNat]
  have back : msg.dataAddr + 1 - 1 = msg.dataAddr := BitVec.add_sub_cancel msg.dataAddr 1
  obtain ⟨wide, lower, upper⟩ := float
  have above : 0x100 ≤ msg.dataAddr.toNat := by omega
  have inside : msg.dataAddr.toNat + (2 : U16).toNat ≤ 0x100 + 100 := by simp; omega
  let data : Memory U8 := fun index => sndBuf.store 0 msg.pdu (6 + index)
  have echo : executed = holdingCallback stale row mirror data (msg.dataAddr + 1) 2 :=
    execute_echo others payload stale row mirror sndBuf ucMBFrame normal
  rw [echo]
  refine ⟨holdingCallback_accepted stale row mirror data above inside, ?_⟩
  obtain ⟨_, _, settings⟩ := @callback_high_accepted stale row mirror data (msg.dataAddr + 1) 2
    (by rw [back]; exact above) (by rw [back]; exact inside)
  rw [back, register] at settings
  have word : ∀ index, index < 2 → overlay mirror row data field.register (2 : U16).toNat
      (field.register + index) = Word.bigEndian (data (2 * index)) (data (2 * index + 1)) := by
    intro index bound
    have window : field.register ≤ field.register + index ∧
        field.register + index < field.register + (2 : U16).toNat := ⟨Nat.le_add_right _ _, by
      simp
      omega⟩
    rw [overlay, if_pos window, delivered, Nat.add_sub_cancel_left]
  obtain ⟨high, low⟩ := echo_bytes payload sndBuf
  have first := (word 0 Nat.two_pos).trans high
  have second := (word 1 Nat.one_lt_two).trans low
  change Zhuodu.read (eMBMasterRegHoldingCB stale row mirror data (msg.dataAddr + 1)
    2).mirror.zhuoduData field = _
  rw [settings, read_copied_head (IsCanbiFloat.head ⟨wide, lower, upper⟩), wide]
  simp only [Width.decode]
  rw [Nat.add_zero] at first
  rw [first, second, Word.join_words]

/-- The bytes of register `register` in the frame of a read that starts at `first`. -/
def framePair (pucRegBuffer : Memory U8) (first register : Nat) : U8 × U8 :=
  (pucRegBuffer (2 * (register - first)), pucRegBuffer (2 * (register - first) + 1))

/-- A read of the slave side that covers its first two registers carries the turbidity,
high word first and each word big-endian. -/
structure PublishesFloat (bits : U32) (usAddress usNRegs : U16) (result : SlaveResult) : Prop where
  high : (usAddress - 1).toNat = 100 → 1 ≤ usNRegs.toNat →
    framePair result.pucRegBuffer 100 100 =
      (Word.highByte (Word.highWord bits), Word.lowByte (Word.highWord bits))
  low : (usAddress - 1).toNat ≤ 101 → 101 < (usAddress - 1).toNat + usNRegs.toNat →
    framePair result.pucRegBuffer (usAddress - 1).toNat 101 =
      (Word.highByte (Word.lowWord bits), Word.lowByte (Word.lowWord bits))
  registers : result.registers 0 = Word.highWord bits ∧ result.registers 1 = Word.lowWord bits

theorem input_publishes {zhuoduData : Zhuodu}
    (measured : zhuoduData.read .turbidimeter = .float bits) (registers : Memory U16)
    (pucRegBuffer : Memory U8) {usAddress usNRegs : U16}
    (accepted : HoldingRange.Accepts ⟨sRegInputStart, sRegInputNregs⟩ (usAddress - 1) usNRegs) :
    PublishesFloat bits usAddress usNRegs
      (eMBRegInputCB registers zhuoduData pucRegBuffer usAddress usNRegs) := by
  have pattern : zhuoduData.readFloat .turbidimeter = bits :=
    Value.float.inj ((zhuoduData.read_float rfl).symm.trans measured)
  obtain ⟨high, low⟩ := publish_first zhuoduData registers
  rw [pattern] at high low
  have read := @input_read registers zhuoduData pucRegBuffer usAddress usNRegs accepted
  constructor
  · intro start covers
    obtain ⟨highByte, lowByte⟩ := read (show (usAddress - 1).toNat ≤ 100 by omega) (by omega)
    have index : 100 - sRegInputStart.toNat = 0 := rfl
    rw [index, high, start] at highByte lowByte
    exact Prod.ext highByte lowByte
  · intro start covers
    obtain ⟨highByte, lowByte⟩ := read start covers
    have index : 101 - sRegInputStart.toNat = 1 := rfl
    rw [index, low] at highByte lowByte
    exact Prod.ext highByte lowByte
  · have stored : (eMBRegInputCB registers zhuoduData pucRegBuffer usAddress usNRegs).registers =
        publish zhuoduData registers := by
      simp only [eMBRegInputCB, if_pos accepted]
    rw [stored]
    exact ⟨high, low⟩

end WordOrder

/-- The word order of a message that sets `field` to `bits`, on all three ways. -/
structure OneWordOrder (bits : U32) (field : Field) (msg : ModbusMsg) : Prop where
  polled : ∀ (stale : HoldingRange) (row : Row) (mirror : Mirror) (slave : Memory U16),
    let answer := registerFrame (slave.store field.register msg.busWords) 0x100
    (poll stale row mirror .canbi answer).status = .enoerr ∧
      (poll stale row mirror .canbi answer).mirror.zhuoduData.read field = .float bits
  echoed : ∀ (others : OtherHandlers) (stale : HoldingRange) (row : Row) (mirror : Mirror)
    (sndBuf ucMBFrame : Memory U8) (usLength : U16),
    Answer.Normal msg (.frame stale ucMBFrame usLength) →
      let executed := eMBMasterPollExecute others stale row ⟨mirror, sndBuf.store 0 msg.pdu⟩
        ucMBFrame usLength
      executed.1 = exNone ∧ executed.2.zhuoduData.read field = .float bits
  published : ∀ (zhuoduData : Zhuodu) (registers : Memory U16) (pucRegBuffer : Memory U8)
    (usAddress usNRegs : U16), zhuoduData.read .turbidimeter = .float bits →
      HoldingRange.Accepts ⟨sRegInputStart, sRegInputNregs⟩ (usAddress - 1) usNRegs →
        PublishesFloat bits usAddress usNRegs
            (eMBRegInputCB registers zhuoduData pucRegBuffer usAddress usNRegs) ∧
          PublishesFloat bits usAddress usNRegs
            (eMBRegHoldingCB registers zhuoduData pucRegBuffer usAddress usNRegs .read)
  samePair : msg.busWords = [Word.highWord bits, Word.lowWord bits]

theorem float_word_order (bits : U32) (field : Field) (float : IsCanbiFloat field)
    (msg : ModbusMsg) (address : msg.dataAddr = field.address) (payload : msg.dat = .float bits) :
    OneWordOrder bits field msg := by
  constructor
  · exact fun stale row mirror slave => poll_returns_float float payload stale row mirror slave
  · intro others stale row mirror sndBuf ucMBFrame usLength normal
    exact echo_returns_float float address payload others stale row mirror sndBuf ucMBFrame normal
  · intro zhuoduData registers pucRegBuffer usAddress usNRegs measured accepted
    have published := input_publishes measured registers pucRegBuffer accepted
    exact ⟨published, holding_read_eq_input registers zhuoduData pucRegBuffer ▸ published⟩
  · rw [msg.busWords_eq_registers, payload]
    rfl

/-- The coefficient `a1` set to 1.5. -/
theorem float_word_order_a1 :
    OneWordOrder 0x3FC00000 .a1 (floatMsg (Field.address .a1) 0x3FC00000) :=
  float_word_order 0x3FC00000 .a1 (by decide +kernel) _ rfl rfl

end ZhuoduControl.Modbus
