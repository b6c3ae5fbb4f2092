import ZhuoduControl.Library.Service
import ZhuoduControl.Modbus.SlaveRegisters

/-! The coils and discrete inputs of the slave: bits packed into bytes, moved to and from
a frame by two functions that shift them through a word. -/

set_option autoImplicit false

namespace ZhuoduControl.Modbus.Bits

open ZhuoduControl.Library
open ZhuoduControl.Data

/-- `ucByteBuf` is an index into the memory that holds the bits. -/
def xMBUtilSetBits (memory : Memory U8) (ucByteBuf usBitOffset ucNBits : Nat) (ucValue : U8) :
    Memory U8 :=
  let usByteOffset := usBitOffset / 8
  let usNPreBits := usBitOffset - usByteOffset * 8
  let usValue : U16 := ucValue.setWidth 16 <<< usNPreBits
  let usMask : U16 := ((1#16 <<< ucNBits) - 1) <<< usNPreBits
  let first := ucByteBuf + usByteOffset
  let usWordBuf := Word.bigEndian (memory (first + 1)) (memory first)
  -- the bits of the value are not masked
  let usWordBuf := (usWordBuf &&& ~~~usMask) ||| usValue
  (memory.set first (Word.lowByte usWordBuf)).set (first + 1) (Word.highByte usWordBuf)

def xMBUtilGetBits (memory : Memory U8) (ucByteBuf usBitOffset ucNBits : Nat) : U8 :=
  let usByteOffset := usBitOffset / 8
  let usNPreBits := usBitOffset - usByteOffset * 8
  let usMask : U16 := (1#16 <<< ucNBits) - 1
  let first := ucByteBuf + usByteOffset
  let usWordBuf := Word.bigEndian (memory (first + 1)) (memory first)
  Word.lowByte ((usWordBuf >>> usNPreBits) &&& usMask)

def sCoilStart : U16 := 0
def sCoilNcoils : U16 := 16
def sDiscreteInputStart : U16 := 0
def sDiscreteInputNdiscretes : U16 := 16

structure BitsResult where
  status : MBErrorCode
  /-- `ucSCoilBuf` -/
  coils : Memory U8
  pucRegBuffer : Memory U8

/-- The loop that reads, a byte a time. -/
def readLoop (bank : Memory U8) (iRegBitIndex : Nat) :
    Nat → Nat → Nat → Memory U8 → Memory U8
  | 0, _, _, pucRegBuffer => pucRegBuffer
  | iNReg + 1, iRegIndex, position, pucRegBuffer =>
      readLoop bank iRegBitIndex iNReg (iRegIndex + 1) (position + 1)
        (pucRegBuffer.set position (xMBUtilGetBits bank iRegIndex iRegBitIndex 8))

/-- One byte more than the whole bytes is read, and what does not belong to the last one is
shifted out of it. -/
def readBank (bank : Memory U8) (first : U16) (usNBits : U16) (pucRegBuffer : Memory U8) :
    Memory U8 :=
  let iNReg := usNBits.toNat / 8 + 1
  let filled := readLoop bank (first.toNat % 8) iNReg (first.toNat / 8) 0 pucRegBuffer
  let last := iNReg - 1
  let rest := usNBits.toNat % 8
  filled.set last ((filled last <<< (8 - rest)) >>> (8 - rest))

/-- The loop that writes, and the rest behind it. -/
def writeLoop (pucRegBuffer : Memory U8) (iRegBitIndex rest : Nat) :
    Nat → Nat → Nat → Memory U8 → Memory U8
  | 0, iRegIndex, position, bank =>
      if rest ≠ 0 then
        xMBUtilSetBits bank iRegIndex iRegBitIndex rest (pucRegBuffer position)
      else
        bank
  | more + 1, iRegIndex, position, bank =>
      writeLoop pucRegBuffer iRegBitIndex rest more (iRegIndex + 1) (position + 1)
        (xMBUtilSetBits bank iRegIndex iRegBitIndex 8 (pucRegBuffer position))

def eMBRegCoilsCB (ucSCoilBuf pucRegBuffer : Memory U8) (usAddress usNCoils : U16)
    (eMode : MBRegisterMode) : BitsResult :=
  let usAddress := usAddress - 1
  if HoldingRange.Accepts ⟨sCoilStart, sCoilNcoils⟩ usAddress usNCoils then
    let first := usAddress - sCoilStart
    match eMode with
    | .read => ⟨.enoerr, ucSCoilBuf, readBank ucSCoilBuf first usNCoils pucRegBuffer⟩
    | .write =>
        ⟨.enoerr, writeLoop pucRegBuffer (first.toNat % 8) (usNCoils.toNat % 8)
          (usNCoils.toNat / 8) (first.toNat / 8) 0 ucSCoilBuf, pucRegBuffer⟩
  else
    ⟨.enoreg, ucSCoilBuf, pucRegBuffer⟩

structure DiscreteResult where
  status : MBErrorCode
  pucRegBuffer : Memory U8

def eMBRegDiscreteCB (ucSDiscInBuf pucRegBuffer : Memory U8) (usAddress usNDiscrete : U16) :
    DiscreteResult :=
  let usAddress := usAddress - 1
  if HoldingRange.Accepts ⟨sDiscreteInputStart, sDiscreteInputNdiscretes⟩ usAddress usNDiscrete then
    ⟨.enoerr, readBank ucSDiscInBuf (usAddress - sDiscreteInputStart) usNDiscrete pucRegBuffer⟩
  else
    ⟨.enoreg, pucRegBuffer⟩

/-- Bit `index` of the bytes of a memory. -/
def bitAt (memory : Memory U8) (index : Nat) : Bool := (memory (index / 8)).getLsbD (index % 8)

theorem bitAt_byte (memory : Memory U8) (position : Nat) {index : Nat} (inside : index < 8) :
    bitAt memory (8 * position + index) = (memory position).getLsbD index := by
  rw [bitAt, show (8 * position + index) / 8 = position by omega,
    show (8 * position + index) % 8 = index by omega]

section Words

theorem getLsbD_bigEndian (high low : U8) (index : Nat) :
    (Word.bigEndian high low).getLsbD index =
      if index < 8 then low.getLsbD index else high.getLsbD (index - 8) :=
  BitVec.getLsbD_append

theorem getLsbD_lowByte (word : U16) {index : Nat} (inside : index < 8) :
    (Word.lowByte word).getLsbD index = word.getLsbD index := by
  simp [Word.lowByte, inside]

theorem getLsbD_highByte (word : U16) {index : Nat} (inside : index < 8) :
    (Word.highByte word).getLsbD index = word.getLsbD (8 + index) := by
  simp [Word.highByte, inside]

/-- The two bytes from `first` on as a word. -/
theorem bitAt_word (memory : Memory U8) (first : Nat) {index : Nat} (inside : index < 16) :
    (Word.bigEndian (memory (first + 1)) (memory first)).getLsbD index =
      bitAt memory (8 * first + index) := by
  rw [getLsbD_bigEndian, bitAt]
  by_cases low : index < 8
  · rw [if_pos low, show (8 * first + index) / 8 = first by omega,
      show (8 * first + index) % 8 = index by omega]
  · rw [if_neg low, show (8 * first + index) / 8 = first + 1 by omega,
      show (8 * first + index) % 8 = index - 8 by omega]

/-- Storing a word changes the sixteen bits of its two bytes. -/
theorem bitAt_store_word (memory : Memory U8) (first : Nat) (word : U16) (index : Nat) :
    bitAt ((memory.set first (Word.lowByte word)).set (first + 1) (Word.highByte word)) index =
      if 8 * first ≤ index ∧ index < 8 * first + 16 then word.getLsbD (index - 8 * first)
      else bitAt memory index := by
  unfold bitAt
  have rest : index % 8 < 8 := Nat.mod_lt _ (by decide)
  by_cases low : index / 8 = first
  · have inside : 8 * first ≤ index ∧ index < 8 * first + 16 := by omega
    have apart : index / 8 ≠ first + 1 := by omega
    rw [if_pos inside, Memory.set_other _ _ apart, low, Memory.set_same, getLsbD_lowByte _ rest,
      show index - 8 * first = index % 8 by omega]
  · by_cases high : index / 8 = first + 1
    · have inside : 8 * first ≤ index ∧ index < 8 * first + 16 := by omega
      rw [if_pos inside, high, Memory.set_same, getLsbD_highByte _ rest,
        show index - 8 * first = 8 + index % 8 by omega]
    · have outside : ¬ (8 * first ≤ index ∧ index < 8 * first + 16) := by omega
      rw [if_neg outside, Memory.set_other _ _ high, Memory.set_other _ _ low]

theorem getLsbD_mask {count : Nat} (narrow : count ≤ 8) (index : Nat) :
    ((1#16 <<< count) - 1).getLsbD index = decide (index < count) := by
  have masks : ∀ count : Fin 9, ∀ index : Fin 16,
      ((1#16 <<< count.val) - 1).getLsbD index.val = decide (index.val < count.val) := by
    decide
  by_cases inside : index < 16
  · exact masks ⟨count, Nat.lt_succ_of_le narrow⟩ ⟨index, inside⟩
  · have beyond : ¬ index < count := by omega
    rw [BitVec.getLsbD_of_ge _ _ (Nat.le_of_not_lt inside), decide_eq_false beyond]

end Words

section Transfer

variable {memory : Memory U8} {ucByteBuf usBitOffset : Nat}

/-- Bits above the number of bits to set are or-ed into the bits behind. -/
theorem bitAt_setBits {ucNBits : Nat} (narrow : ucNBits ≤ 8) (ucValue : U8) (index : Nat) :
    bitAt (xMBUtilSetBits memory ucByteBuf usBitOffset ucNBits ucValue) index =
      if 8 * ucByteBuf + usBitOffset ≤ index ∧ index < 8 * ucByteBuf + usBitOffset + 8 then
        let bit := ucValue.getLsbD (index - (8 * ucByteBuf + usBitOffset))
        if index < 8 * ucByteBuf + usBitOffset + ucNBits then bit else bitAt memory index || bit
      else
        bitAt memory index := by
  let first := ucByteBuf + usBitOffset / 8
  let before := usBitOffset - usBitOffset / 8 * 8
  have start : 8 * ucByteBuf + usBitOffset = 8 * first + before := by
    simp only [first, before]
    omega
  have few : before < 8 := by
    simp only [before]
    omega
  rw [start]
  refine (bitAt_store_word memory first _ index).trans ?_
  by_cases word : 8 * first ≤ index ∧ index < 8 * first + 16
  · obtain ⟨place, rfl⟩ := Nat.exists_eq_add_of_le word.1
    have bound : place < 16 := by omega
    rw [if_pos word, Nat.add_sub_cancel_left, BitVec.getLsbD_or, BitVec.getLsbD_and,
      BitVec.getLsbD_not, BitVec.getLsbD_shiftLeft, BitVec.getLsbD_shiftLeft,
      BitVec.getLsbD_setWidth, getLsbD_mask narrow, bitAt_word memory first bound]
    by_cases low : place < before
    · have outside : ¬ (8 * first + before ≤ 8 * first + place ∧
          8 * first + place < 8 * first + before + 8) := by omega
      rw [if_neg outside]
      simp [bound, before, low] at low ⊢
    · rw [decide_eq_true bound, decide_eq_false (show ¬ place < before from low),
        show 8 * first + place - (8 * first + before) = place - before by omega]
      have near : place - before < 16 := by omega
      change ((_ && (true && !(true && !false && decide (place - before < ucNBits)))) ||
        true && !false && (decide (place - before < 16) && ucValue.getLsbD (place - before))) = _
      rw [decide_eq_true near]
      by_cases inside : place - before < 8
      · have covered : 8 * first + before ≤ 8 * first + place ∧
            8 * first + place < 8 * first + before + 8 := by omega
        rw [if_pos covered]
        by_cases own : place - before < ucNBits
        · have asked : 8 * first + place < 8 * first + before + ucNBits := by omega
          simp [own, asked]
        · have behind : ¬ 8 * first + place < 8 * first + before + ucNBits := by omega
          simp [own, behind]
      · have outside : ¬ (8 * first + before ≤ 8 * first + place ∧
            8 * first + place < 8 * first + before + 8) := by omega
        have behind : ¬ place - before < ucNBits := by omega
        have clear : ucValue.getLsbD (place - before) = false :=
          BitVec.getLsbD_of_ge _ _ (Nat.le_of_not_lt inside)
        rw [if_neg outside, clear]
        simp [behind]
  · have outside : ¬ (8 * first + before ≤ index ∧ index < 8 * first + before + 8) := by omega
    rw [if_neg word, if_neg outside]

/-- The bits before and behind those asked for read as zero. -/
theorem getLsbD_getBits {ucNBits : Nat} (narrow : ucNBits ≤ 8) {index : Nat} (inside : index < 8) :
    (xMBUtilGetBits memory ucByteBuf usBitOffset ucNBits).getLsbD index =
      (decide (index < ucNBits) && bitAt memory (8 * ucByteBuf + usBitOffset + index)) := by
  let first := ucByteBuf + usBitOffset / 8
  let before := usBitOffset - usBitOffset / 8 * 8
  have start : 8 * ucByteBuf + usBitOffset + index = 8 * first + (before + index) := by
    simp only [first, before]
    omega
  have bound : before + index < 16 := by
    simp only [before]
    omega
  unfold xMBUtilGetBits
  rw [getLsbD_lowByte _ inside, BitVec.getLsbD_and, getLsbD_mask narrow, BitVec.getLsbD_ushiftRight,
    start]
  exact (congrArg (· && _) (bitAt_word memory first bound)).trans (Bool.and_comm _ _)

end Transfer

section Reading

variable {bank : Memory U8} {iRegBitIndex : Nat}

/-- The bits of a byte stored at `position`. -/
theorem bitAt_set (memory : Memory U8) (position : Nat) (byte : U8) (index : Nat) :
    bitAt (memory.set position byte) index =
      if index / 8 = position then byte.getLsbD (index % 8) else bitAt memory index := by
  unfold bitAt
  by_cases same : index / 8 = position
  · rw [if_pos same, same, Memory.set_same]
  · rw [if_neg same, Memory.set_other _ _ same]

theorem bitAt_readLoop (iNReg iRegIndex position : Nat) (pucRegBuffer : Memory U8) (index : Nat) :
    bitAt (readLoop bank iRegBitIndex iNReg iRegIndex position pucRegBuffer) index =
      if 8 * position ≤ index ∧ index < 8 * (position + iNReg) then
        bitAt bank (8 * iRegIndex + iRegBitIndex + (index - 8 * position))
      else
        bitAt pucRegBuffer index := by
  induction iNReg generalizing iRegIndex position pucRegBuffer with
  | zero =>
      have none : ¬ (8 * position ≤ index ∧ index < 8 * (position + 0)) := by omega
      rw [if_neg none, readLoop]
  | succ iNReg ih =>
      rw [readLoop, ih, bitAt_set]
      by_cases here : index / 8 = position
      · have first : ¬ (8 * (position + 1) ≤ index ∧ index < 8 * (position + 1 + iNReg)) := by omega
        have asked : 8 * position ≤ index ∧ index < 8 * (position + (iNReg + 1)) := by omega
        have rest : index % 8 < 8 := Nat.mod_lt _ (by decide)
        rw [if_neg first, if_pos here, if_pos asked, getLsbD_getBits (Nat.le_refl 8) rest,
          decide_eq_true rest, Bool.true_and, show index - 8 * position = index % 8 by omega]
      · rw [if_neg here]
        by_cases later : 8 * (position + 1) ≤ index ∧ index < 8 * (position + 1 + iNReg)
        · have asked : 8 * position ≤ index ∧ index < 8 * (position + (iNReg + 1)) := by omega
          rw [if_pos later, if_pos asked, show 8 * (iRegIndex + 1) + iRegBitIndex +
            (index - 8 * (position + 1)) = 8 * iRegIndex + iRegBitIndex +
            (index - 8 * position) by omega]
        · have outside : ¬ (8 * position ≤ index ∧ index < 8 * (position + (iNReg + 1))) := by omega
          rw [if_neg later, if_neg outside]

/-- The two shifts keep the low `rest` bits. -/
theorem getLsbD_shifted (byte : U8) {rest index : Nat} (narrow : rest < 8) (inside : index < 8) :
    ((byte <<< (8 - rest)) >>> (8 - rest)).getLsbD index =
      (decide (index < rest) && byte.getLsbD index) := by
  rw [BitVec.getLsbD_ushiftRight, BitVec.getLsbD_shiftLeft]
  have back : 8 - rest + index - (8 - rest) = index := by omega
  by_cases kept : index < rest
  · have bound : 8 - rest + index < 8 := by omega
    simp [kept, bound]
  · have bound : ¬ 8 - rest + index < 8 := by omega
    simp [kept, bound]

/-- A reading is the bits asked for, with zeros behind them up to the end of the last byte; where
the bits end with a byte, the byte behind them is cleared. -/
theorem bitAt_readBank (first usNBits : U16) (pucRegBuffer : Memory U8) (index : Nat) :
    bitAt (readBank bank first usNBits pucRegBuffer) index =
      if index < 8 * (usNBits.toNat / 8 + 1) then
        decide (index < usNBits.toNat) && bitAt bank (first.toNat + index)
      else
        bitAt pucRegBuffer index := by
  have rest : usNBits.toNat % 8 < 8 := Nat.mod_lt _ (by decide)
  unfold readBank
  simp only [Nat.add_sub_cancel]
  rw [bitAt_set, bitAt_readLoop]
  have start : 8 * (first.toNat / 8) + first.toNat % 8 = first.toNat := Nat.div_add_mod _ _
  by_cases last : index / 8 = usNBits.toNat / 8
  · have asked : index < 8 * (usNBits.toNat / 8 + 1) := by omega
    have inside : index % 8 < 8 := Nat.mod_lt _ (by decide)
    rw [if_pos last, if_pos asked, getLsbD_shifted _ rest inside]
    have same : index % 8 < usNBits.toNat % 8 ↔ index < usNBits.toNat := by omega
    have filled := @bitAt_readLoop bank (first.toNat % 8)
      (usNBits.toNat / 8 + 1) (first.toNat / 8) 0 pucRegBuffer index
    rw [if_pos (by omega), start, Nat.mul_zero, Nat.sub_zero] at filled
    rw [← filled, bitAt, last]
    simp only [same]
  · rw [if_neg last, Nat.mul_zero, start]
    by_cases asked : index < 8 * (usNBits.toNat / 8 + 1)
    · have wanted : index < usNBits.toNat := by omega
      rw [if_pos (by omega), if_pos asked, Nat.sub_zero, decide_eq_true wanted, Bool.true_and]
    · rw [if_neg (by omega), if_neg asked]

end Reading

section Writing

variable {pucRegBuffer : Memory U8} {iRegBitIndex rest : Nat}

/-- A writing is the bits asked for; what the frame holds behind them up to the end of the last
byte is or-ed into the bits behind. -/
theorem bitAt_writeLoop (narrow : rest < 8) (more iRegIndex position : Nat) (bank : Memory U8)
    (index : Nat) :
    bitAt (writeLoop pucRegBuffer iRegBitIndex rest more iRegIndex position bank) index =
      let start := 8 * iRegIndex + iRegBitIndex
      let bit := bitAt pucRegBuffer (8 * position + (index - start))
      if start ≤ index ∧ index < start + (8 * more + rest) then bit
      else if start ≤ index ∧ rest ≠ 0 ∧ index < start + (8 * more + 8) then
        bitAt bank index || bit
      else bitAt bank index := by
  induction more generalizing iRegIndex position bank with
  | zero =>
      rw [writeLoop]
      by_cases some : rest ≠ 0
      · rw [if_pos some, bitAt_setBits (Nat.le_of_lt narrow)]
        simp only [Nat.mul_zero, Nat.zero_add]
        by_cases covered : 8 * iRegIndex + iRegBitIndex ≤ index ∧
            index < 8 * iRegIndex + iRegBitIndex + 8
        · rw [if_pos covered, ← bitAt_byte _ _ (show index - (8 * iRegIndex + iRegBitIndex) < 8 by
            omega)]
          by_cases own : index < 8 * iRegIndex + iRegBitIndex + rest
          · rw [if_pos own, if_pos ⟨covered.1, own⟩]
          · have behind : ¬ (8 * iRegIndex + iRegBitIndex ≤ index ∧
                index < 8 * iRegIndex + iRegBitIndex + rest) := fun both => own both.2
            rw [if_neg own, if_neg behind, if_pos ⟨covered.1, some, covered.2⟩]
        · rw [if_neg covered, if_neg (by omega), if_neg (by omega)]
      · rw [if_neg some]
        simp only
        rw [if_neg (by omega), if_neg (by omega)]
  | succ more ih =>
      rw [writeLoop, ih, bitAt_setBits (Nat.le_refl 8)]
      simp only
      by_cases first : 8 * iRegIndex + iRegBitIndex ≤ index ∧
          index < 8 * iRegIndex + iRegBitIndex + 8
      · rw [if_neg (by omega), if_neg (by omega), if_pos first, if_pos first.2, if_pos (by omega),
          bitAt_byte _ _ (by omega)]
      · rw [if_neg first]
        by_cases before : index < 8 * iRegIndex + iRegBitIndex
        · rw [if_neg (by omega), if_neg (by omega), if_neg (by omega), if_neg (by omega)]
        · have frame : 8 * (position + 1) + (index - (8 * (iRegIndex + 1) + iRegBitIndex)) =
              8 * position + (index - (8 * iRegIndex + iRegBitIndex)) := by omega
          have end_eq (bits : Nat) : 8 * (iRegIndex + 1) + iRegBitIndex + (8 * more + bits) =
              8 * iRegIndex + iRegBitIndex + (8 * (more + 1) + bits) := by omega
          have later : 8 * (iRegIndex + 1) + iRegBitIndex ≤ index := by omega
          have late : 8 * iRegIndex + iRegBitIndex ≤ index := by omega
          simp only [frame, end_eq, later, late, true_and]

end Writing

section Calls

/-- A call of `eMBRegCoilsCB`. -/
structure CoilsCall where
  pucRegBuffer : Memory U8
  usAddress : U16
  usNCoils : U16
  eMode : MBRegisterMode

namespace CoilsCall

/-- The address of a frame is one less than that of the call. -/
abbrev start (call : CoilsCall) : Nat := (call.usAddress - 1).toNat

abbrev count (call : CoilsCall) : Nat := call.usNCoils.toNat

/-- The bits that the handler sends behind the call, whole bytes of them. -/
def asked (call : CoilsCall) : List Nat := List.range (8 * ((call.count + 7) / 8))

/-- The frame holds nothing behind the coils to be written. -/
def Padded (call : CoilsCall) : Prop :=
  call.eMode = .write → ∀ index, call.count ≤ index → index < 8 * ((call.count + 7) / 8) →
    bitAt call.pucRegBuffer index = false

end CoilsCall

structure CoilsAnswer where
  status : MBErrorCode
  bits : List Bool
deriving DecidableEq, Repr

def serveCoils (ucSCoilBuf : Memory U8) (call : CoilsCall) : Memory U8 × CoilsAnswer :=
  let result := eMBRegCoilsCB ucSCoilBuf call.pucRegBuffer call.usAddress call.usNCoils call.eMode
  let bits := if result.status = .enoerr ∧ call.eMode = .read then
    call.asked.map (bitAt result.pucRegBuffer) else []
  (result.coils, ⟨result.status, bits⟩)

/-- Coils as a row of bits, of which sixteen can be named. -/
def serveBits (coils : Nat → Bool) (call : CoilsCall) : (Nat → Bool) × CoilsAnswer :=
  if call.start + call.count ≤ 16 then
    match call.eMode with
    | .read =>
        (coils, ⟨.enoerr, call.asked.map fun index =>
          decide (index < call.count) && coils (call.start + index)⟩)
    | .write =>
        (fun index =>
          if call.start ≤ index ∧ index < call.start + call.count then
            bitAt call.pucRegBuffer (index - call.start)
          else coils index, ⟨.enoerr, []⟩)
  else
    (coils, ⟨.enoreg, []⟩)

theorem serveCoils_refines {ucSCoilBuf : Memory U8} {coils : Nat → Bool} (call : CoilsCall)
    (represents : bitAt ucSCoilBuf = coils) (padded : call.Padded) :
    bitAt (serveCoils ucSCoilBuf call).1 = (serveBits coils call).1 ∧
      (serveCoils ucSCoilBuf call).2 = (serveBits coils call).2 := by
  obtain ⟨pucRegBuffer, usAddress, usNCoils, eMode⟩ := call
  have range : HoldingRange.Accepts ⟨sCoilStart, sCoilNcoils⟩ (usAddress - 1) usNCoils ↔
      (usAddress - 1).toNat + usNCoils.toNat ≤ 16 := by
    constructor
    · exact fun accepted => Nat.le_trans accepted.2 (by decide)
    · exact fun inside => ⟨Nat.zero_le _, inside⟩
  have first : usAddress - 1 - sCoilStart = usAddress - 1 := BitVec.sub_zero _
  unfold serveCoils serveBits eMBRegCoilsCB
  simp only [CoilsCall.start, CoilsCall.count, first, ← range]
  by_cases accepted : HoldingRange.Accepts ⟨sCoilStart, sCoilNcoils⟩ (usAddress - 1) usNCoils
  · simp only [if_pos accepted]
    cases eMode with
    | read =>
        refine ⟨represents, ?_⟩
        simp only [and_self, if_true]
        congr 1
        apply List.map_congr_left
        intro index member
        have inside : index < 8 * (usNCoils.toNat / 8 + 1) := by
          have short := List.mem_range.mp member
          simp only [CoilsCall.count] at short
          omega
        rw [bitAt_readBank, if_pos inside, represents]
    | write =>
        refine ⟨funext fun index => ?_, rfl⟩
        have narrow : usNCoils.toNat % 8 < 8 := Nat.mod_lt _ (by decide)
        rw [bitAt_writeLoop narrow, Nat.div_add_mod, Nat.div_add_mod, Nat.mul_zero,
          represents]
        simp only [Nat.zero_add]
        by_cases named : (usAddress - 1).toNat ≤ index ∧
            index < (usAddress - 1).toNat + usNCoils.toNat
        · rw [if_pos named, if_pos named]
        · rw [if_neg named, if_neg named]
          split
          · next behind =>
            have clear : bitAt pucRegBuffer (index - (usAddress - 1).toNat) = false := by
              apply padded rfl
              · simp only [CoilsCall.count]
                omega
              · simp only [CoilsCall.count]
                omega
            rw [clear, Bool.or_false]
          · rfl
  · simp only [if_neg accepted]
    exact ⟨represents, rfl⟩

/-- Requests whose frames hold nothing behind their coils act on the coils as on a row of bits:
they change those they name and no other, and read what was last written. -/
theorem coils_refine (ucSCoilBuf : Memory U8) {calls : List CoilsCall}
    (padded : ∀ call ∈ calls, call.Padded) :
    bitAt (Service.run serveCoils ucSCoilBuf calls).1 =
        (Service.run serveBits (bitAt ucSCoilBuf) calls).1 ∧
      (Service.run serveCoils ucSCoilBuf calls).2 =
        (Service.run serveBits (bitAt ucSCoilBuf) calls).2 := by
  have step : ∀ (bank : Memory U8) (coils : Nat → Bool) (call : CoilsCall),
      bitAt bank = coils → call.Padded →
        bitAt (serveCoils bank call).1 = (serveBits coils call).1 ∧
          (serveCoils bank call).2 = (serveBits coils call).2 :=
    fun _ _ call represents clear => serveCoils_refines call represents clear
  exact Service.run_refines step rfl (Service.admitted_of_forall padded _)

/-- Three coils are set across the end of a byte and read back. -/
def setAndRead : List CoilsCall :=
  [⟨fun _ => 7, 7, 3, .write⟩, ⟨fun _ => 0, 7, 3, .read⟩]

theorem coils_refine_setAndRead :
    (Service.run serveCoils (fun _ => 0) setAndRead).2 =
      (Service.run serveBits (bitAt fun _ => 0) setAndRead).2 := by
  refine (coils_refine (fun _ => 0) fun call member => ?_).2
  rcases List.mem_cons.mp member with rfl | second
  · intro _ index behind inside
    have late : 3 ≤ index := behind
    have early : index < 8 := inside
    have clear : ∀ place < 8, 3 ≤ place → bitAt (fun _ => 7) place = false := by decide
    exact clear index early late
  · cases List.mem_singleton.mp second
    intro written
    cases written

end Calls

end ZhuoduControl.Modbus.Bits
