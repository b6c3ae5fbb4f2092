import ZhuoduControl.Library.Run
import ZhuoduControl.Modbus.HoldingCallbackProperties
import ZhuoduControl.Modbus.SlaveRegisters

/-! The holding registers of the slave side over any history of calls: a memory of ten
registers, the first two of which always show the turbidity. -/

set_option autoImplicit false

namespace ZhuoduControl.Modbus

open ZhuoduControl.Library
open ZhuoduControl.Data

/-- A call of the callback; the functions that make it refuse requests without registers. -/
structure HoldingCall where
  pucRegBuffer : Memory U8
  usAddress : U16
  usNRegs : U16
  eMode : MBRegisterMode
  nonempty : 1 ≤ usNRegs.toNat

namespace HoldingCall

/-- The address of the request, which the stack has incremented. -/
def first (call : HoldingCall) : Nat := (call.usAddress - 1).toNat

def Covers (call : HoldingCall) (register : Nat) : Prop :=
  call.first ≤ register ∧ register < call.first + call.usNRegs.toNat

instance (call : HoldingCall) (register : Nat) : Decidable (call.Covers register) :=
  inferInstanceAs (Decidable (_ ∧ _))

def InBlock (call : HoldingCall) : Prop :=
  ∀ register, call.Covers register → 100 ≤ register ∧ register < 110

theorem inBlock_iff (call : HoldingCall) :
    call.InBlock ↔ HoldingRange.Accepts ⟨sRegHoldingStart, sRegHoldingNregs⟩ (call.usAddress - 1)
      call.usNRegs := by
  have some_register := call.nonempty
  constructor
  · intro inside
    have least := inside call.first ⟨Nat.le_refl _, Nat.lt_add_of_pos_right some_register⟩
    have most := inside (call.first + call.usNRegs.toNat - 1) ⟨by omega, by omega⟩
    exact ⟨least.1, show call.first + call.usNRegs.toNat ≤ 110 by omega⟩
  · rintro ⟨start, stop⟩ register ⟨lower, upper⟩
    have least : 100 ≤ call.first := start
    have most : call.first + call.usNRegs.toNat ≤ 110 := stop
    omega

instance (call : HoldingCall) : Decidable call.InBlock :=
  decidable_of_iff _ call.inBlock_iff.symm

/-- The call is a successful write of the register. -/
def Writes (call : HoldingCall) (register : Nat) : Prop :=
  call.eMode = .write ∧ call.InBlock ∧ call.Covers register

instance (call : HoldingCall) (register : Nat) : Decidable (call.Writes register) :=
  inferInstanceAs (Decidable (_ ∧ _))

/-- The value that the data of the call has for the register. -/
def value (call : HoldingCall) (register : Nat) : U16 :=
  delivered call.pucRegBuffer call.first register

def result (call : HoldingCall) (usSRegHoldBuf : Memory U16) (zhuoduData : Zhuodu) : SlaveResult :=
  eMBRegHoldingCB usSRegHoldBuf zhuoduData call.pucRegBuffer call.usAddress call.usNRegs call.eMode

end HoldingCall

/-- The register with the latest call first. -/
def lastWritten (register : Nat) : List HoldingCall → U16
  | [] => 0
  | call :: earlier =>
      if call.Writes register then call.value register else lastWritten register earlier

structure SlaveSide where
  usSRegHoldBuf : Memory U16
  zhuoduData : Zhuodu
  /-- the calls so far, the latest one first -/
  calls : List HoldingCall

inductive SlaveEvent
  | call (call : HoldingCall)
  /-- another thread changes the settings or the turbidity -/
  | changed (zhuoduData : Zhuodu)

def SlaveSide.start (zhuoduData : Zhuodu) : SlaveSide := ⟨fun _ => 0, zhuoduData, []⟩

def slaveStep (side : SlaveSide) : SlaveEvent → Option SlaveSide
  | .call call =>
      let result := call.result side.usSRegHoldBuf side.zhuoduData
      some { side with usSRegHoldBuf := result.registers, calls := call :: side.calls }
  | .changed zhuoduData => some { side with zhuoduData := zhuoduData }

/-- What a register shows: the turbidity of the moment, or what was written last. -/
def SlaveSide.shown (side : SlaveSide) (register : Nat) : U16 :=
  if register = 100 then Word.highWord (side.zhuoduData.readFloat .turbidimeter)
  else if register = 101 then Word.lowWord (side.zhuoduData.readFloat .turbidimeter)
  else lastWritten register side.calls

structure ServesCall (before : SlaveSide) (call : HoldingCall) (after : SlaveSide) : Prop where
  succeeds : (call.result before.usSRegHoldBuf before.zhuoduData).status = .enoerr ↔ call.InBlock
  reads : call.InBlock → call.eMode = .read → ∀ register, call.Covers register →
    let frame := (call.result before.usSRegHoldBuf before.zhuoduData).pucRegBuffer
    frame (2 * (register - call.first)) = Word.highByte (before.shown register) ∧
      frame (2 * (register - call.first) + 1) = Word.lowByte (before.shown register)
  rejects : ¬ call.InBlock →
    (call.result before.usSRegHoldBuf before.zhuoduData).registers = before.usSRegHoldBuf ∧
      (call.result before.usSRegHoldBuf before.zhuoduData).pucRegBuffer = call.pucRegBuffer
  zhuoduData : after.zhuoduData = before.zhuoduData

def MemoryWithOverlay (before : SlaveSide) (event : SlaveEvent) (after : SlaveSide) : Prop :=
  match event with
  | .call call => ServesCall before call after
  | .changed _ => True

/-- The buffer holds what was written last, but for the turbidity. -/
def Remembers (side : SlaveSide) : Prop :=
  ∀ register, 102 ≤ register → side.usSRegHoldBuf (register - 100) = lastWritten register side.calls

section Calls

variable {call : HoldingCall} {registers : Memory U16} {zhuoduData : Zhuodu}

theorem result_rejected (outside : ¬ call.InBlock) :
    call.result registers zhuoduData = ⟨.enoreg, registers, call.pucRegBuffer⟩ :=
  if_neg fun accepted => outside (call.inBlock_iff.mpr accepted)

theorem result_read (read : call.eMode = .read) :
    call.result registers zhuoduData =
      eMBRegInputCB registers zhuoduData call.pucRegBuffer call.usAddress call.usNRegs := by
  unfold HoldingCall.result
  rw [read]
  rfl

/-- An accepted call publishes the turbidity, and a write stores its data over it. -/
theorem result_accepted (inside : call.InBlock) :
    (call.result registers zhuoduData).status = .enoerr ∧
      (call.result registers zhuoduData).registers =
        match call.eMode with
        | .read => publish zhuoduData registers
        | .write => (publish zhuoduData registers).setAll
            (fillRow call.pucRegBuffer 0 (call.usAddress - 1 - sRegHoldingStart)
              call.usNRegs.toNat) := by
  unfold HoldingCall.result eMBRegHoldingCB
  dsimp only
  rw [if_pos (call.inBlock_iff.mp inside)]
  cases call.eMode with
  | read => exact ⟨rfl, rfl⟩
  | write => exact ⟨rfl, rfl⟩

theorem publish_behind {index : Nat} (behind : 2 ≤ index) :
    publish zhuoduData registers index = registers index := by
  unfold publish
  rw [Memory.set_other _ _ (by omega), Memory.set_other _ _ (by omega)]

theorem first_of_inBlock (inside : call.InBlock) :
    100 ≤ call.first ∧ call.first + call.usNRegs.toNat ≤ 110 := call.inBlock_iff.mp inside

theorem fillRow_stored (buffer : Memory U16) (pucRegBuffer : Memory U8) {count index : Nat}
    {iRegIndex : U16} (bound : iRegIndex.toNat + count < 65536) :
    buffer.setAll (fillRow pucRegBuffer 0 iRegIndex count) index =
      if iRegIndex.toNat ≤ index ∧ index < iRegIndex.toNat + count then
        Word.bigEndian (pucRegBuffer (2 * (index - iRegIndex.toNat)))
          (pucRegBuffer (2 * (index - iRegIndex.toNat) + 1))
      else buffer index := by
  have filled := fillRow_apply buffer 0 pucRegBuffer 0 count index iRegIndex bound
  simpa using filled

/-- Behind the turbidity a call changes what it writes. -/
theorem result_registers {register : Nat} (behind : 102 ≤ register) :
    (call.result registers zhuoduData).registers (register - 100) =
      if call.Writes register then call.value register else registers (register - 100) := by
  have published : publish zhuoduData registers (register - 100) = registers (register - 100) :=
    publish_behind (by omega)
  by_cases inside : call.InBlock
  · rw [(result_accepted inside).2]
    cases mode : call.eMode with
    | read =>
        have unwritten : ¬ call.Writes register := fun writes => by
          cases mode.symm.trans writes.1
        rw [if_neg unwritten]
        exact published
    | write =>
        obtain ⟨least, most⟩ := first_of_inBlock inside
        have index : (call.usAddress - 1 - sRegHoldingStart).toNat = call.first - 100 :=
          BitVec.toNat_sub_of_le (BitVec.le_def.mpr least)
        have bound : (call.usAddress - 1 - sRegHoldingStart).toNat + call.usNRegs.toNat < 65536 := by
          omega
        have stored := @fillRow_stored (publish zhuoduData registers) call.pucRegBuffer
          call.usNRegs.toNat (register - 100) (call.usAddress - 1 - sRegHoldingStart) bound
        dsimp only
        rw [stored, index, published]
        by_cases covers : call.Covers register
        · obtain ⟨lower, upper⟩ := covers
          have place : register - 100 - (call.first - 100) = register - call.first := by omega
          rw [if_pos ⟨by omega, by omega⟩, place, if_pos ⟨mode, inside, lower, upper⟩]
          rfl
        · have unwritten : ¬ call.Writes register := fun writes => covers writes.2.2
          rw [if_neg fun both => covers ⟨by omega, by omega⟩, if_neg unwritten]
  · have unwritten : ¬ call.Writes register := fun writes => inside writes.2.1
    rw [result_rejected inside, if_neg unwritten]

/-- A read carries what the registers show. -/
theorem result_frame {side : SlaveSide} {register : Nat} (remembers : Remembers side)
    (inside : call.InBlock) (read : call.eMode = .read) (covers : call.Covers register) :
    let frame := (call.result side.usSRegHoldBuf side.zhuoduData).pucRegBuffer
    frame (2 * (register - call.first)) = Word.highByte (side.shown register) ∧
      frame (2 * (register - call.first) + 1) = Word.lowByte (side.shown register) := by
  have bytes := @input_read side.usSRegHoldBuf side.zhuoduData call.pucRegBuffer call.usAddress
    call.usNRegs (call.inBlock_iff.mp inside) register covers.1 covers.2
  have word : publish side.zhuoduData side.usSRegHoldBuf (register - sRegInputStart.toNat) =
      side.shown register := by
    obtain ⟨high, low⟩ := publish_first side.zhuoduData side.usSRegHoldBuf
    have least := (inside register covers).1
    unfold SlaveSide.shown
    by_cases first : register = 100
    · rw [if_pos first, first]
      exact high
    · rw [if_neg first]
      by_cases second : register = 101
      · rw [if_pos second, second]
        exact low
      · rw [if_neg second]
        show publish side.zhuoduData side.usSRegHoldBuf (register - 100) = _
        rw [publish_behind (by omega)]
        exact remembers register (by omega)
  rw [word] at bytes
  rw [result_read read]
  exact bytes

end Calls

theorem slaveStep_serves (before : SlaveSide) (event : SlaveEvent) (after : SlaveSide)
    (remembers : Remembers before) (stepped : slaveStep before event = some after) :
    Remembers after ∧ MemoryWithOverlay before event after := by
  cases event with
  | changed zhuoduData =>
      cases Option.some.inj stepped
      exact ⟨remembers, trivial⟩
  | call call =>
      cases Option.some.inj stepped
      refine ⟨fun register behind => ?_, ?_, ?_, ?_, rfl⟩
      · show (call.result before.usSRegHoldBuf before.zhuoduData).registers (register - 100) =
          lastWritten register (call :: before.calls)
        rw [result_registers behind, remembers register behind]
        rfl
      · constructor
        · intro succeeds
          by_contra outside
          rw [result_rejected outside] at succeeds
          cases succeeds
        · exact fun inside => (result_accepted inside).1
      · exact fun inside read register covers => result_frame remembers inside read covers
      · intro outside
        rw [result_rejected outside]
        exact ⟨rfl, rfl⟩

/-- The holding registers are a memory with the turbidity laid over it. -/
theorem holdingRegisters_memory (zhuoduData : Zhuodu) (events : List SlaveEvent) :
    Run.AllSteps slaveStep MemoryWithOverlay (.start zhuoduData) events :=
  Run.allSteps_of_step slaveStep_serves events fun _ _ => rfl

end ZhuoduControl.Modbus
