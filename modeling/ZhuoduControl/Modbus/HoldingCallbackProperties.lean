import ZhuoduControl.Modbus.HoldingCallback

/-! What one call of the master's holding-register callback does: which windows
it accepts, what it leaves in the row buffer and which members it copies from
which registers. -/

set_option autoImplicit false

namespace ZhuoduControl.Modbus

open ZhuoduControl.Library
open ZhuoduControl.Data

/-- The value a frame carries for `register`, its data starting at `first`. -/
def delivered (pucRegBuffer : Memory U8) (first register : Nat) : U16 :=
  Word.bigEndian (pucRegBuffer (2 * (register - first)))
    (pucRegBuffer (2 * (register - first) + 1))

/-- The value held for `register` after a delivery: from the frame inside the
window, from the row of the slave outside. -/
def overlay (mirror : Mirror) (row : Row) (pucRegBuffer : Memory U8) (first count register : Nat) :
    U16 :=
  if first ≤ register ∧ register < first + count then delivered pucRegBuffer first register
  else mirror.row row (register - 0x100)

def copied (zhuodu : Zhuodu) (bus : Memory U16) : Zhuodu :=
  zhuodu.copyAll (fun index => bus (0x100 + index)) copyCanbi

def copiedRegister (field : Field) (index : Nat) : Option Nat :=
  (Memory.copySource (field.offset + index) copyCanbi).map fun source => 0x100 + source

@[simp] theorem HoldingRange.select_canbi (stale : HoldingRange) {usAddress : U16}
    (high : 0x100 ≤ usAddress.toNat) : select stale usAddress = ⟨0x100, 100⟩ :=
  if_pos high

theorem HoldingRange.select_low (stale : HoldingRange) {usAddress : U16}
    (low : usAddress.toNat < 0x100) : select stale usAddress = stale := by
  unfold select
  rw [if_neg (by omega), if_neg (by omega)]

theorem fillRow_indices (pucRegBuffer : Memory U8) {position count index : Nat} {iRegIndex : U16}
    (bound : iRegIndex.toNat + count < 65536)
    (present : index ∈ (fillRow pucRegBuffer position iRegIndex count).map Prod.fst) :
    index < iRegIndex.toNat + count := by
  induction count generalizing position iRegIndex with
  | zero => cases present
  | succ count ih =>
      have successor : (iRegIndex + 1).toNat = iRegIndex.toNat + 1 :=
        BitVec.toNat_add_of_lt (by simp; omega)
      rcases List.mem_cons.mp present with first | later
      · omega
      · have inside := ih (by omega) later
        omega

theorem fillRow_apply (buffer : Memory U16) (base : Nat) (pucRegBuffer : Memory U8)
    (position count index : Nat) (iRegIndex : U16) (bound : iRegIndex.toNat + count < 65536) :
    buffer.setAll ((fillRow pucRegBuffer position iRegIndex count).map
        fun store => (base + store.1, store.2)) (base + index) =
      if iRegIndex.toNat ≤ index ∧ index < iRegIndex.toNat + count then
        Word.bigEndian (pucRegBuffer (position + 2 * (index - iRegIndex.toNat)))
          (pucRegBuffer (position + 2 * (index - iRegIndex.toNat) + 1))
      else buffer (base + index) := by
  induction count generalizing buffer position iRegIndex with
  | zero => rw [if_neg (by omega)]; rfl
  | succ count ih =>
      have successor : (iRegIndex + 1).toNat = iRegIndex.toNat + 1 :=
        BitVec.toNat_add_of_lt (by simp; omega)
      rw [fillRow, List.map_cons, Memory.setAll_cons, ih _ _ _ (by omega), successor]
      rcases Nat.lt_trichotomy index iRegIndex.toNat with before | here | after
      · rw [if_neg (by omega), if_neg (by omega), Memory.set_other _ _ (by simp; omega)]
      · rw [if_neg (by omega), if_pos (by omega), here, Nat.sub_self, Memory.set_same]
        rfl
      · by_cases inside : index < iRegIndex.toNat + (count + 1)
        · have shifted : position + 2 + 2 * (index - (iRegIndex.toNat + 1)) =
              position + 2 * (index - iRegIndex.toNat) := by omega
          rw [if_pos (by omega), if_pos (by omega), shifted]
        · rw [if_neg (by omega), if_neg (by omega), Memory.set_other _ _ (by simp; omega)]

theorem copied_apply (zhuodu : Zhuodu) (bus : Memory U16) (field : Field) (index : Nat) :
    copied zhuodu bus (field.offset + index) =
      ((copiedRegister field index).map bus).getD (zhuodu (field.offset + index)) := by
  rw [copied, Memory.copyAll_apply, copiedRegister, Option.map_map]
  rfl

def headFields : List Field :=
  Field.canbiFields.take 17

theorem copiedRegister_head {field : Field} (head : field ∈ headFields) {index : Nat}
    (bound : index < field.width.size) :
    copiedRegister field index = some (field.register + field.width.registerIndex index) := by
  have checked : ∀ field ∈ headFields, ∀ index, index < field.width.size →
      copiedRegister field index =
        some (field.register + field.width.registerIndex index) := by
    decide +kernel
  exact checked field head index bound

def keptFields : List Field :=
  [.rangeSel, .a2Zero, .canbiCalcGet, .maStat] ++ Field.caliFields.drop 3

theorem copiedRegister_kept {field : Field} (kept : field ∈ keptFields) {index : Nat}
    (bound : index < field.width.size) : copiedRegister field index = none := by
  have checked : ∀ field ∈ keptFields, ∀ index, index < field.width.size →
      copiedRegister field index = none := by
    decide +kernel
  exact checked field kept index bound

theorem read_copied_head {field : Field} (head : field ∈ headFields) (zhuodu : Zhuodu)
    (bus : Memory U16) :
    (copied zhuodu bus).read field = field.width.decode bus field.register := by
  refine field.width.fetch_eq_decode.mpr fun index bound => ?_
  rw [copied_apply, copiedRegister_head head bound]
  rfl

theorem read_copied_kept {field : Field} (kept : field ∈ keptFields) (zhuodu : Zhuodu)
    (bus : Memory U16) : (copied zhuodu bus).read field = zhuodu.read field := by
  refine Zhuodu.read_eq_read.mpr fun index bound => ?_
  rw [copied_apply, copiedRegister_kept kept bound]
  rfl

section Misplaced

variable (zhuodu : Zhuodu) (bus : Memory U16)

theorem read_copied_half {field : Field} {register : Nat} (narrow : field.width = .half)
    (taken : copiedRegister field 0 = some register) :
    (copied zhuodu bus).read field = .half (bus register) := by
  have cell := copied_apply zhuodu bus field 0
  rw [taken] at cell
  simp only [Zhuodu.read, narrow, Width.fetch]
  exact congrArg Value.half cell

theorem read_copied_float {field : Field} (wide : field.width = .float) :
    (copied zhuodu bus).read field =
      .float (Word.join
        (((copiedRegister field 1).map bus).getD (zhuodu (field.offset + 1)))
        (((copiedRegister field 0).map bus).getD (zhuodu field.offset))) := by
  have low := copied_apply zhuodu bus field 0
  have high := copied_apply zhuodu bus field 1
  simp only [Zhuodu.read, wide, Width.fetch]
  rw [high]
  exact congrArg (fun word => Value.float (Word.join _ word)) low

-- The copies made with the pointer that was not moved back land five half-words
-- further on, in `reserved`, `num_cali`, `canbi_get` and the first calibration points.

theorem read_copied_reserved : (copied zhuodu bus).read .reserved = .half (bus 285) :=
  read_copied_half zhuodu bus rfl (by decide +kernel)

theorem read_copied_numCali : (copied zhuodu bus).read .numCali = .half (bus 286) :=
  read_copied_half zhuodu bus rfl (by decide +kernel)

theorem read_copied_canbiGet : (copied zhuodu bus).read .canbiGet = .half (bus 288) :=
  read_copied_half zhuodu bus rfl (by decide +kernel)

theorem read_copied_turbidimeterCali_zero :
    (copied zhuodu bus).read (.turbidimeterCaliBuf 0) =
      .float (Word.join (bus 289) (bus 287)) := by
  have low : copiedRegister (.turbidimeterCaliBuf 0) 0 = some 287 := by decide +kernel
  have high : copiedRegister (.turbidimeterCaliBuf 0) 1 = some 289 := by decide +kernel
  rw [read_copied_float zhuodu bus rfl, low, high]
  rfl

theorem read_copied_turbidimeterCali_one :
    (copied zhuodu bus).read (.turbidimeterCaliBuf 1) =
      .float (Word.join (bus 291) (bus 290)) := by
  have low : copiedRegister (.turbidimeterCaliBuf 1) 0 = some 290 := by decide +kernel
  have high : copiedRegister (.turbidimeterCaliBuf 1) 1 = some 291 := by decide +kernel
  rw [read_copied_float zhuodu bus rfl, low, high]
  rfl

theorem read_copied_turbidimeterCali_two :
    (copied zhuodu bus).read (.turbidimeterCaliBuf 2) =
      .float (Word.join (zhuodu (Field.offset (.turbidimeterCaliBuf 2) + 1)) (bus 292)) := by
  have low : copiedRegister (.turbidimeterCaliBuf 2) 0 = some 292 := by decide +kernel
  have high : copiedRegister (.turbidimeterCaliBuf 2) 1 = none := by decide +kernel
  rw [read_copied_float zhuodu bus rfl, low, high]
  rfl

end Misplaced

section Accepted

variable (stale : HoldingRange) (row : Row) (mirror : Mirror) (pucRegBuffer : Memory U8)
variable {usAddress usNRegs : U16}

theorem callback_low_rejected (low : (usAddress - 1).toNat < 0x100)
    (outside : ¬ stale.Accepts (usAddress - 1) usNRegs) :
    eMBMasterRegHoldingCB stale row mirror pucRegBuffer usAddress usNRegs =
      ⟨.enoreg, [], mirror⟩ := by
  simp only [eMBMasterRegHoldingCB, HoldingRange.select_low stale low, if_neg outside]

theorem callback_low_accepted (low : (usAddress - 1).toNat < 0x100)
    (inside : stale.Accepts (usAddress - 1) usNRegs) :
    (eMBMasterRegHoldingCB stale row mirror pucRegBuffer usAddress usNRegs).status = .enoerr := by
  simp only [eMBMasterRegHoldingCB, HoldingRange.select_low stale low, if_pos inside]

/-- A window from `0x100` on is rejected without effect as soon as it leaves the
first hundred registers; the range from `0x200` is never selected. -/
theorem callback_high_rejected (high : 0x100 ≤ (usAddress - 1).toNat)
    (outside : 0x100 + 100 < (usAddress - 1).toNat + usNRegs.toNat) :
    eMBMasterRegHoldingCB stale row mirror pucRegBuffer usAddress usNRegs =
      ⟨.enoreg, [], mirror⟩ := by
  have refused : ¬ HoldingRange.Accepts ⟨0x100, 100⟩ (usAddress - 1) usNRegs := by
    rintro ⟨_, fits⟩
    exact absurd fits (by simpa using outside)
  simp only [eMBMasterRegHoldingCB, HoldingRange.select_canbi stale high, if_neg refused]

theorem callback_high_accepted (high : 0x100 ≤ (usAddress - 1).toNat)
    (inside : (usAddress - 1).toNat + usNRegs.toNat ≤ 0x100 + 100) :
    let result := eMBMasterRegHoldingCB stale row mirror pucRegBuffer usAddress usNRegs
    result.status = .enoerr ∧
      (∀ index ∈ result.written, index < mRegHoldingNregs) ∧
      result.mirror.zhuoduData = copied mirror.zhuoduData
        (overlay mirror row pucRegBuffer (usAddress - 1).toNat usNRegs.toNat) := by
  have accepted : HoldingRange.Accepts ⟨0x100, 100⟩ (usAddress - 1) usNRegs :=
    ⟨high, inside⟩
  have distance : (usAddress - 1 - 0x100 : U16).toNat = (usAddress - 1).toNat - 0x100 :=
    BitVec.toNat_sub_of_le (BitVec.le_def.mpr high)
  have bound : (usAddress - 1 - 0x100 : U16).toNat + usNRegs.toNat < 65536 := by omega
  simp only [eMBMasterRegHoldingCB, HoldingRange.select_canbi stale high, if_pos accepted,
    if_pos high]
  refine ⟨trivial, ?_, ?_⟩
  · intro index present
    have below := fillRow_indices pucRegBuffer bound present
    unfold mRegHoldingNregs
    omega
  · refine congrArg (Memory.copyAll mirror.zhuoduData · copyCanbi) (funext fun index => ?_)
    rw [fillRow_apply _ _ _ _ _ _ _ bound, distance]
    unfold overlay delivered Mirror.row
    have same : 0x100 + index - (usAddress - 1).toNat =
        index - ((usAddress - 1).toNat - 0x100) := by omega
    by_cases window : (usAddress - 1).toNat ≤ 0x100 + index ∧
        0x100 + index < (usAddress - 1).toNat + usNRegs.toNat
    · rw [if_pos (by omega), if_pos window, same, Nat.zero_add]
    · rw [if_neg (by omega), if_neg window, Nat.add_sub_cancel_left]

end Accepted

end ZhuoduControl.Modbus
