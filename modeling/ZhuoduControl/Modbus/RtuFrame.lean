import ZhuoduControl.Library.Memory
import ZhuoduControl.Modbus.Crc

/-! The frame of the serial line: an address, a PDU and the checksum of both, low byte
first. Master and slave build it and check it in the same way. -/

set_option autoImplicit false

namespace ZhuoduControl.Modbus.Rtu

open ZhuoduControl.Library
open ZhuoduControl.Data

def mbSerPduSizeMin : Nat := 4
def mbSerPduSizeMax : Nat := 256
def mbSerPduSizeCrc : Nat := 2
def mbSerPduAddrOff : Nat := 0
def mbSerPduPduOff : Nat := 1

/-- `MB_PDU_SIZE_MAX` -/
def mbPduSizeMax : Nat := 253

/-- What is handed up for a frame; the PDU stays in the buffer. -/
structure Received where
  ucRcvAddress : U8
  usLength : Nat
deriving DecidableEq, Repr

/-- The body of `eMBRTUReceive` and `eMBMasterRTUReceive`; `none` is `MB_EIO`. -/
def receiveFrom (buffer : Memory U8) (usRcvBufferPos : Nat) : Option Received :=
  if mbSerPduSizeMin ≤ usRcvBufferPos ∧ usMBCRC16 (buffer.load 0 usRcvBufferPos) = 0 then
    some
      { ucRcvAddress := buffer mbSerPduAddrOff
        usLength := usRcvBufferPos - mbSerPduPduOff - mbSerPduSizeCrc }
  else
    none

def checksum (body : List U8) : List U8 :=
  [Word.lowByte (usMBCRC16 body), Word.highByte (usMBCRC16 body)]

/-- The bytes on the line for a PDU. -/
def frame (ucSlaveAddress : U8) (pdu : List U8) : List U8 :=
  (ucSlaveAddress :: pdu) ++ checksum (ucSlaveAddress :: pdu)

/-- A frame that a receiver accepts. -/
def Accepted (bytes : List U8) : Prop :=
  mbSerPduSizeMin ≤ bytes.length ∧ usMBCRC16 bytes = 0

instance (bytes : List U8) : Decidable (Accepted bytes) :=
  inferInstanceAs (Decidable (_ ∧ _))

theorem length_frame (ucSlaveAddress : U8) (pdu : List U8) :
    (frame ucSlaveAddress pdu).length = pdu.length + 3 := by
  simp [frame, checksum]

section Checksum

theorem aucCRCLo_eq_zero : ∀ index : Fin 256, aucCRCLo.getD index 0 = 0 → index = 0 := by
  decide +kernel

theorem aucCRC_zero : aucCRCLo.getD 0 0 = 0 ∧ aucCRCHi.getD 0 0 = 0 := ⟨rfl, rfl⟩

theorem update_low (crc : CrcBytes) : crc.update crc.ucCRCLo = ⟨0, crc.ucCRCHi⟩ := by
  have index : (crc.ucCRCLo ^^^ crc.ucCRCLo).toNat = 0 := by rw [BitVec.xor_self]; rfl
  unfold CrcBytes.update
  simp only [index, aucCRC_zero]
  rw [BitVec.ofNat_eq_ofNat, BitVec.xor_zero]

/-- The high byte is cleared by the low byte of the register only. -/
theorem update_high_zero {crc : CrcBytes} {ucByte : U8}
    (cleared : (crc.update ucByte).ucCRCHi = 0) : ucByte = crc.ucCRCLo := by
  have index : (crc.ucCRCLo ^^^ ucByte).toFin = 0 := aucCRCLo_eq_zero _ cleared
  have zero : crc.ucCRCLo ^^^ ucByte = 0 := BitVec.toFin_inj.mp index
  exact (BitVec.xor_eq_zero_iff.mp zero).symm

theorem CrcBytes.value_eq_zero {crc : CrcBytes} :
    crc.value = 0 ↔ crc.ucCRCHi = 0 ∧ crc.ucCRCLo = 0 := by
  constructor
  · intro zero
    have high := congrArg Word.highByte zero
    have low := congrArg Word.lowByte zero
    rw [CrcBytes.value, Word.highByte_bigEndian] at high
    rw [CrcBytes.value, Word.lowByte_bigEndian] at low
    exact ⟨high, low⟩
  · rintro ⟨high, low⟩
    rw [CrcBytes.value, high, low]
    rfl

/-- Two more bytes clear the register if and only if they are its own. -/
theorem usMBCRC16_append_iff (body : List U8) (low high : U8) :
    usMBCRC16 (body ++ [low, high]) = 0 ↔ [low, high] = checksum body := by
  have own : checksum body =
      [(body.foldl CrcBytes.update crcInit).ucCRCLo,
        (body.foldl CrcBytes.update crcInit).ucCRCHi] := by
    rw [checksum, usMBCRC16, CrcBytes.value, Word.lowByte_bigEndian, Word.highByte_bigEndian]
  rw [own, usMBCRC16, List.foldl_append]
  generalize body.foldl CrcBytes.update crcInit = crc
  rw [CrcBytes.value_eq_zero]
  constructor
  · rintro ⟨clearedHigh, clearedLow⟩
    have last : high = (crc.update low).ucCRCLo := update_high_zero clearedHigh
    have both : (crc.update low).update high = ⟨0, (crc.update low).ucCRCHi⟩ := by
      rw [last]
      exact update_low _
    have first : low = crc.ucCRCLo := by
      apply update_high_zero
      have cleared : ((crc.update low).update high).ucCRCLo = 0 := clearedLow
      rwa [both] at cleared
    rw [last, first, update_low]
  · intro same
    obtain ⟨rfl, rest⟩ := List.cons.inj same
    obtain ⟨rfl, _⟩ := List.cons.inj rest
    have one := update_low crc
    have two := update_low ⟨0, crc.ucCRCHi⟩
    rw [List.foldl_cons, List.foldl_cons, one, two]
    exact ⟨rfl, rfl⟩

end Checksum

theorem accepted_frame (ucSlaveAddress : U8) {pdu : List U8} (some : pdu ≠ []) :
    Accepted (frame ucSlaveAddress pdu) := by
  constructor
  · rw [length_frame]
    exact Nat.add_le_add_right (List.length_pos_iff.mpr some) 3
  · exact (usMBCRC16_append_iff ..).mpr rfl

/-- Only frames that `frame` builds are accepted. -/
theorem Accepted.eq_frame {bytes : List U8} (accepted : Accepted bytes) :
    ∃ ucSlaveAddress pdu, pdu ≠ [] ∧ bytes = frame ucSlaveAddress pdu := by
  obtain ⟨long, zero⟩ := accepted
  have cut : bytes = bytes.take (bytes.length - 2) ++ bytes.drop (bytes.length - 2) :=
    (List.take_append_drop ..).symm
  have two : (bytes.drop (bytes.length - 2)).length = 2 := by
    rw [List.length_drop]
    unfold mbSerPduSizeMin at long
    omega
  obtain ⟨low, high, tail⟩ := List.length_eq_two.mp two
  rw [tail] at cut
  rw [cut, usMBCRC16_append_iff] at zero
  have front : 2 ≤ (bytes.take (bytes.length - 2)).length := by
    rw [List.length_take]
    unfold mbSerPduSizeMin at long
    omega
  cases body : bytes.take (bytes.length - 2) with
  | nil =>
      rw [body] at front
      cases front
  | cons ucSlaveAddress pdu =>
      rw [body] at front zero cut
      refine ⟨ucSlaveAddress, pdu, ?_, ?_⟩
      · rintro rfl
        exact absurd front (Nat.not_succ_le_self 1)
      · rw [frame, ← zero]
        exact cut

theorem frame_inj {first second : U8} {left right : List U8} :
    frame first left = frame second right ↔ first = second ∧ left = right := by
  constructor
  · intro same
    have lengths := congrArg List.length same
    rw [length_frame, length_frame] at lengths
    have bodies := (List.append_inj same (by simp [Nat.add_right_cancel lengths])).1
    exact List.cons.inj bodies
  · rintro ⟨rfl, rfl⟩
    rfl

/-- What is handed up is the address and the PDU of the frame in the buffer. -/
theorem receiveFrom_iff {buffer : Memory U8} {usRcvBufferPos : Nat} {received : Received} :
    receiveFrom buffer usRcvBufferPos = some received ↔
      1 ≤ received.usLength ∧ usRcvBufferPos = received.usLength + 3 ∧
        buffer.load 0 usRcvBufferPos =
          frame received.ucRcvAddress (buffer.load mbSerPduPduOff received.usLength) := by
  unfold receiveFrom
  constructor
  · intro handed
    split at handed
    · next accepted =>
      cases handed
      have long : 4 ≤ usRcvBufferPos := accepted.1
      have position : usRcvBufferPos = (usRcvBufferPos - 1 - 2) + 3 := by omega
      refine ⟨by simp only [mbSerPduPduOff, mbSerPduSizeCrc]; omega, position, ?_⟩
      obtain ⟨ucSlaveAddress, pdu, _, built⟩ :=
        Accepted.eq_frame ⟨(Memory.load_length ..).symm ▸ accepted.1, accepted.2⟩
      have size : usRcvBufferPos - 1 - 2 = pdu.length := by
        have lengths := congrArg List.length built
        rw [Memory.load_length, length_frame] at lengths
        omega
      have body : buffer 0 :: buffer.load 1 pdu.length = ucSlaveAddress :: pdu := by
        have whole := congrArg (List.take (pdu.length + 1)) built
        have front : (frame ucSlaveAddress pdu).take (pdu.length + 1) = ucSlaveAddress :: pdu :=
          List.take_left' rfl
        rw [Memory.load_take, front, Nat.min_eq_left (by omega)] at whole
        exact whole
      obtain ⟨address, rest⟩ := List.cons.inj body
      rw [built, mbSerPduAddrOff, mbSerPduPduOff, mbSerPduSizeCrc, size, address, rest]
    · cases handed
  · rintro ⟨some_pdu, position, built⟩
    have pdu_length := Memory.load_length buffer mbSerPduPduOff received.usLength
    have accepted : Accepted (buffer.load 0 usRcvBufferPos) := by
      rw [built]
      refine accepted_frame _ fun empty => ?_
      rw [empty] at pdu_length
      rw [← pdu_length] at some_pdu
      cases some_pdu
    rw [if_pos ⟨(Memory.load_length buffer 0 usRcvBufferPos) ▸ accepted.1, accepted.2⟩]
    have address : buffer 0 = received.ucRcvAddress := by
      rw [position] at built
      exact (List.cons.inj built).1
    rw [mbSerPduAddrOff, mbSerPduPduOff, mbSerPduSizeCrc, position, address]
    rfl

/-- Put an address before the PDU in the buffer and the checksum behind it: the body of
`eMBRTUSend` and `eMBMasterRTUSend`. -/
def build (buffer : Memory U8) (ucSlaveAddress : U8) (usLength : Nat) : Memory U8 :=
  let addressed := buffer.set mbSerPduAddrOff ucSlaveAddress
  let usSndBufferCount := 1 + usLength
  let usCRC16 := usMBCRC16 (addressed.load 0 usSndBufferCount)
  (addressed.set usSndBufferCount (Word.lowByte usCRC16)).set (usSndBufferCount + 1)
    (Word.highByte usCRC16)

theorem build_load (buffer : Memory U8) (ucSlaveAddress : U8) (usLength : Nat) :
    (build buffer ucSlaveAddress usLength).load 0 (usLength + 3) =
      frame ucSlaveAddress (buffer.load mbSerPduPduOff usLength) := by
  let addressed : Memory U8 := buffer.set 0 ucSlaveAddress
  let body := addressed.load 0 (1 + usLength)
  let low := Word.lowByte (usMBCRC16 body)
  let high := Word.highByte (usMBCRC16 body)
  have built : build buffer ucSlaveAddress usLength =
      (addressed.set (1 + usLength) low).set (1 + usLength + 1) high := rfl
  have whole : body = ucSlaveAddress :: buffer.load 1 usLength := by
    have rest : addressed.load 1 usLength = buffer.load 1 usLength :=
      Memory.load_congr fun other lower _ => Memory.set_other _ _ (Nat.ne_of_gt lower)
    have first : addressed.load 0 1 = [ucSlaveAddress] := by
      simp [Memory.load, addressed]
    calc body = addressed.load 0 1 ++ addressed.load (0 + 1) usLength := Memory.load_append ..
      _ = ucSlaveAddress :: buffer.load 1 usLength := by rw [first, rest]; rfl
  have kept : ((addressed.set (1 + usLength) low).set (1 + usLength + 1) high).load 0
      (1 + usLength) = body := by
    refine Memory.load_congr fun other _ upper => ?_
    rw [Memory.set_other _ _ (by omega), Memory.set_other _ _ (by omega)]
  have tail : ((addressed.set (1 + usLength) low).set (1 + usLength + 1) high).load
      (0 + (1 + usLength)) 2 = [low, high] := by
    have apart : 1 + usLength ≠ 1 + usLength + 1 := Nat.ne_of_lt (Nat.lt_succ_self _)
    rw [Nat.zero_add, Memory.load, Memory.load, Memory.load, Memory.set_other _ _ apart,
      Memory.set_same, Memory.set_same]
  have count : usLength + 3 = (1 + usLength) + 2 := by omega
  rw [built, count, Memory.load_append, kept, tail, frame, mbSerPduPduOff, ← whole]
  rfl

theorem frameBits_injective {first second : List U8}
    (same : frameBits first = frameBits second) : first = second := by
  induction first generalizing second with
  | nil =>
      cases second with
      | nil => rfl
      | cons byte rest =>
          have lengths := congrArg List.length same
          rw [length_frameBits, length_frameBits] at lengths
          cases lengths
  | cons byte rest ih =>
      cases second with
      | nil =>
          have lengths := congrArg List.length same
          rw [length_frameBits, length_frameBits] at lengths
          cases lengths
      | cons other others =>
          have split : ∀ (ucByte : U8) (bytes : List U8),
              frameBits (ucByte :: bytes) = Crc.bitsOf ucByte ++ frameBits bytes := fun _ _ => rfl
          rw [split, split] at same
          obtain ⟨heads, tails⟩ := List.append_inj same
            (by rw [Crc.length_bitsOf, Crc.length_bitsOf])
          rw [Crc.bitsOf_injective heads, ih tails]

theorem crcTaps_aperiodic : Crc.avoids crcTaps (Crc.unit 15) 2048 (Crc.unit 15) = true := by
  decide +kernel

/-- Two different frames of one length that are both accepted differ in four bits at
least, and not only within 16 bits in a row. -/
theorem accepted_apart {sent received : List U8} (sentAccepted : Accepted sent)
    (receivedAccepted : Accepted received) (lengths : sent.length = received.length)
    (short : sent.length ≤ mbSerPduSizeMax) (different : sent ≠ received) :
    4 ≤ Crc.distance (frameBits sent) (frameBits received) ∧
      ∀ lead left right trail, frameBits sent = lead ++ left ++ trail →
        frameBits received = lead ++ right ++ trail → left.length = right.length →
        16 < left.length := by
  have bits : (frameBits sent).length = (frameBits received).length := by
    rw [length_frameBits, length_frameBits, lengths]
  have apart : frameBits sent ≠ frameBits received :=
    fun same => different (frameBits_injective same)
  have registers : Crc.feed crcTaps 0xFFFF (frameBits sent) =
      Crc.feed crcTaps 0xFFFF (frameBits received) := by
    rw [← usMBCRC16_feed, ← usMBCRC16_feed, sentAccepted.2, receivedAccepted.2]
  constructor
  · refine Crc.four_le_distance (by decide) (by decide) ?_ bits apart registers
    have bound : (frameBits sent).length ≤ 2048 := by
      rw [length_frameBits]
      exact Nat.mul_le_mul_left 8 short
    exact Crc.avoids_mono bound crcTaps_aperiodic
  · intro lead left right trail sentSplit receivedSplit sizes
    refine Nat.lt_of_not_le fun narrow => apart ?_
    rw [sentSplit, receivedSplit] at registers ⊢
    rw [Crc.burst_detected (by decide) sizes narrow registers]

theorem accepted_apart_functions :
    4 ≤ Crc.distance (frameBits (frame 1 [3])) (frameBits (frame 1 [4])) := by
  have lengths : (frame 1 [3]).length = (frame 1 [4]).length := by rw [length_frame, length_frame]; rfl
  have short : (frame 1 [3]).length ≤ mbSerPduSizeMax := by rw [length_frame]; decide
  have different : frame 1 [3] ≠ frame 1 [4] := fun same =>
    absurd (frame_inj.mp same).2 (by decide)
  exact (accepted_apart (accepted_frame 1 (List.cons_ne_nil 3 []))
    (accepted_frame 1 (List.cons_ne_nil 4 [])) lengths short different).1

end ZhuoduControl.Modbus.Rtu
