import ZhuoduControl.Modbus.HoldingCallbackProperties

/-! The two windows polled by `modbus_app_thread_entry`, and the window check for
any address and count. -/

set_option autoImplicit false

namespace ZhuoduControl.Modbus

open ZhuoduControl.Library
open ZhuoduControl.Data

/-- The callback for a completed poll of a whole register range; the caller adds
one to the address. -/
def poll (stale : HoldingRange) (row : Row) (mirror : Mirror) (block : Block)
    (pucRegBuffer : Memory U8) : CallbackResult :=
  eMBMasterRegHoldingCB stale row mirror pucRegBuffer
    (BitVec.ofNat 16 block.start + 1) (BitVec.ofNat 16 block.count)

/-- Every member of the polled range holds the decoding of its own registers and
the other range is untouched. -/
structure DecodesExactly (block : Block) (before : Mirror) (pucRegBuffer : Memory U8)
    (result : CallbackResult) : Prop where
  status : result.status = .enoerr
  decoded : ∀ field : Field, field.block = block →
    result.mirror.zhuoduData.read field =
      field.width.decode (delivered pucRegBuffer block.start) field.register
  untouched : ∀ field : Field, field.block ≠ block →
    result.mirror.zhuoduData.read field = before.zhuoduData.read field

/-- The delivered registers happen to hide the misplaced end of the copy: the
members it leaves out already hold their registers, and the members it hits hold
what lands in them. -/
structure TailAgrees (zhuodu : Zhuodu) (bus : Memory U16) : Prop where
  rangeSel : zhuodu.read .rangeSel = .half (bus 285)
  a2Zero : zhuodu.read .a2Zero = .half (bus 286)
  canbiCalcGet : zhuodu.read .canbiCalcGet = .float (Word.join (bus 287) (bus 288))
  maStat : zhuodu.read .maStat = .half (bus 289)
  reserved : bus 290 = bus 285
  numCali : bus 291 = bus 286
  canbiGet : bus 292 = bus 288
  pointZero : zhuodu.read (.turbidimeterCaliBuf 0) = .float (Word.join (bus 289) (bus 287))
  pointOne : zhuodu.read (.turbidimeterCaliBuf 1) = .float (Word.join (bus 291) (bus 290))
  pointTwo : zhuodu (Field.offset (.turbidimeterCaliBuf 2)) = bus 292

theorem poll_canbi (stale : HoldingRange) (row : Row) (mirror : Mirror)
    (pucRegBuffer : Memory U8) :
    (poll stale row mirror .canbi pucRegBuffer).status = .enoerr ∧
      (poll stale row mirror .canbi pucRegBuffer).mirror.zhuoduData =
        copied mirror.zhuoduData (delivered pucRegBuffer 0x100) := by
  have count : Block.canbi.count = 37 := by decide +kernel
  have sources : ∀ move ∈ copyCanbi, move.2 < 37 := by decide +kernel
  have accepted := @callback_high_accepted stale row mirror pucRegBuffer
    (BitVec.ofNat 16 Block.canbi.start + 1) (BitVec.ofNat 16 Block.canbi.count)
    (by decide) (by rw [count]; decide)
  obtain ⟨status, _, settings⟩ := accepted
  refine ⟨status, settings.trans (Memory.copyAll_congr _ fun move member => ?_)⟩
  rw [count]
  have bound := sources move member
  exact if_pos ⟨Nat.le_add_right 0x100 move.2, Nat.add_lt_add_left bound 0x100⟩

private theorem poll_cali (stale : HoldingRange) (row : Row) (mirror : Mirror)
    (pucRegBuffer : Memory U8) :
    poll stale row mirror .cali pucRegBuffer = ⟨.enoreg, [], mirror⟩ := by
  have count : Block.cali.count = 29 := by decide +kernel
  have rejected := @callback_high_rejected stale row mirror pucRegBuffer
    (BitVec.ofNat 16 Block.cali.start + 1) (BitVec.ofNat 16 Block.cali.count)
    (by decide) (by rw [count]; decide)
  exact rejected

private theorem decode_half {field : Field} {register : Nat} (bus : Memory U16)
    (narrow : field.width = .half) (place : field.register = register) :
    field.width.decode bus field.register = .half (bus register) := by
  rw [narrow, place]
  rfl

private theorem decode_float {field : Field} {register : Nat} (bus : Memory U16)
    (wide : field.width = .float) (place : field.register = register) :
    field.width.decode bus field.register =
      .float (Word.join (bus register) (bus (register + 1))) := by
  rw [wide, place]
  rfl

section Canbi

variable {zhuodu : Zhuodu} {bus : Memory U16}

private theorem copied_exact_iff :
    ((∀ field : Field, field.block = .canbi →
        (copied zhuodu bus).read field = field.width.decode bus field.register) ∧
      ∀ field : Field, field.block ≠ .canbi →
        (copied zhuodu bus).read field = zhuodu.read field) ↔ TailAgrees zhuodu bus := by
  have rangeSel := @decode_half .rangeSel 285 bus rfl (by decide +kernel)
  have a2Zero := @decode_half .a2Zero 286 bus rfl (by decide +kernel)
  have canbiCalcGet := @decode_float .canbiCalcGet 287 bus rfl (by decide +kernel)
  have maStat := @decode_half .maStat 289 bus rfl (by decide +kernel)
  have reserved := @decode_half .reserved 290 bus rfl (by decide +kernel)
  have numCali := @decode_half .numCali 291 bus rfl (by decide +kernel)
  have canbiGet := @decode_half .canbiGet 292 bus rfl (by decide +kernel)
  have kept : ∀ field ∈ keptFields, (copied zhuodu bus).read field = zhuodu.read field :=
    fun field member => read_copied_kept member zhuodu bus
  constructor
  · rintro ⟨decoded, untouched⟩
    have pointTwo := untouched (.turbidimeterCaliBuf 2) (by decide)
    rw [read_copied_turbidimeterCali_two] at pointTwo
    exact {
      rangeSel := by rw [← kept _ (by decide), decoded _ (by decide), rangeSel]
      a2Zero := by rw [← kept _ (by decide), decoded _ (by decide), a2Zero]
      canbiCalcGet := by rw [← kept _ (by decide), decoded _ (by decide), canbiCalcGet]
      maStat := by rw [← kept _ (by decide), decoded _ (by decide), maStat]
      reserved := by
        have same := decoded .reserved (by decide)
        rw [reserved, read_copied_reserved] at same
        exact (Value.half.inj same).symm
      numCali := by
        have same := decoded .numCali (by decide)
        rw [numCali, read_copied_numCali] at same
        exact (Value.half.inj same).symm
      canbiGet := by
        have same := decoded .canbiGet (by decide)
        rw [canbiGet, read_copied_canbiGet] at same
        exact (Value.half.inj same).symm
      pointZero := by
        rw [← untouched _ (by decide), read_copied_turbidimeterCali_zero]
      pointOne := by
        rw [← untouched _ (by decide), read_copied_turbidimeterCali_one]
      pointTwo := (Word.join_inj.mp (Value.float.inj pointTwo)).2.symm }
  · intro agrees
    constructor
    · intro field inside
      have groups : ∀ field ∈ Field.declared, field.block = .canbi → field ∈ headFields ++
          [.rangeSel, .a2Zero, .canbiCalcGet, .maStat, .reserved, .numCali, .canbiGet] := by
        decide +kernel
      rcases List.mem_append.mp (groups field (Field.mem_declared field) inside) with head | tail
      · exact read_copied_head head zhuodu bus
      · simp only [List.mem_cons, List.not_mem_nil, or_false] at tail
        rcases tail with rfl | rfl | rfl | rfl | rfl | rfl | rfl
        · rw [kept _ (by decide), agrees.rangeSel, rangeSel]
        · rw [kept _ (by decide), agrees.a2Zero, a2Zero]
        · rw [kept _ (by decide), agrees.canbiCalcGet, canbiCalcGet]
        · rw [kept _ (by decide), agrees.maStat, maStat]
        · rw [read_copied_reserved, reserved, agrees.reserved]
        · rw [read_copied_numCali, numCali, agrees.numCali]
        · rw [read_copied_canbiGet, canbiGet, agrees.canbiGet]
    · intro field outside
      have groups : ∀ field ∈ Field.declared, field.block ≠ .canbi → field ∈ keptFields ++
          [.turbidimeterCaliBuf 0, .turbidimeterCaliBuf 1, .turbidimeterCaliBuf 2] := by
        decide +kernel
      rcases List.mem_append.mp (groups field (Field.mem_declared field) outside) with left | hit
      · exact kept field left
      · simp only [List.mem_cons, List.not_mem_nil, or_false] at hit
        rcases hit with rfl | rfl | rfl
        · rw [read_copied_turbidimeterCali_zero, agrees.pointZero]
        · rw [read_copied_turbidimeterCali_one, agrees.pointOne]
        · rw [read_copied_turbidimeterCali_two, ← agrees.pointTwo]
          rfl

end Canbi

theorem poll_decodesExactly_iff (stale : HoldingRange) (row : Row) (mirror : Mirror)
    (block : Block) (pucRegBuffer : Memory U8) :
    DecodesExactly block mirror pucRegBuffer (poll stale row mirror block pucRegBuffer) ↔
      block = .canbi ∧ TailAgrees mirror.zhuoduData (delivered pucRegBuffer 0x100) := by
  cases block with
  | canbi =>
      obtain ⟨status, settings⟩ := poll_canbi stale row mirror pucRegBuffer
      constructor
      · intro exact
        have decoded := exact.decoded
        have untouched := exact.untouched
        rw [settings] at decoded untouched
        exact ⟨rfl, copied_exact_iff.mp ⟨decoded, untouched⟩⟩
      · rintro ⟨_, agrees⟩
        obtain ⟨decoded, untouched⟩ := copied_exact_iff.mpr agrees
        rw [← settings] at decoded untouched
        exact ⟨status, decoded, untouched⟩
  | cali =>
      constructor
      · intro exact
        have status := exact.status
        rw [poll_cali] at status
        cases status
      · rintro ⟨other, _⟩
        cases other

def blankMirror : Mirror := ⟨fun _ => 0, fun _ => 0⟩

theorem poll_not_decodesExactly :
    ¬ DecodesExactly .canbi blankMirror (fun _ => 1)
        (poll ⟨0, 0⟩ 0 blankMirror .canbi fun _ => 1) ∧
      ¬ DecodesExactly .cali blankMirror (fun _ => 1)
        (poll ⟨0, 0⟩ 0 blankMirror .cali fun _ => 1) := by
  constructor
  · intro exact
    have decoded := exact.decoded .rangeSel (by decide)
    revert decoded
    decide +kernel
  · intro exact
    have status := exact.status
    revert status
    decide +kernel

/-- The callback's contract for any address and count: the two hundred registers
are accepted and no others, inside the row, and a refusal has no effect. -/
structure WindowCheckExact (first count : Nat) (before : Mirror) (result : CallbackResult) :
    Prop where
  accepted : result.status = .enoerr ↔
    (0x100 ≤ first ∧ first + count ≤ 0x100 + 100) ∨
      (0x200 ≤ first ∧ first + count ≤ 0x200 + 100)
  inside : result.status = .enoerr → ∀ index ∈ result.written, index < mRegHoldingNregs
  clean : result.status = .enoreg → result.mirror = before

/-- When the check is right: from `0x100` on for every window outside the second
hundred, below only while the unassigned locals refuse the window. -/
def WindowDecided (stale : HoldingRange) (usAddress usNRegs : U16) : Prop :=
  (0x100 ≤ usAddress.toNat ∧
      ¬ (0x200 ≤ usAddress.toNat ∧ usAddress.toNat + usNRegs.toNat ≤ 0x200 + 100)) ∨
    (usAddress.toNat < 0x100 ∧ ¬ stale.Accepts usAddress usNRegs)

theorem windowCheckExact_iff (stale : HoldingRange) (row : Row) (mirror : Mirror)
    (pucRegBuffer : Memory U8) (usAddress usNRegs : U16) :
    WindowCheckExact (usAddress - 1).toNat usNRegs.toNat mirror
        (eMBMasterRegHoldingCB stale row mirror pucRegBuffer usAddress usNRegs) ↔
      WindowDecided stale (usAddress - 1) usNRegs := by
  rcases Nat.lt_or_ge (usAddress - 1).toNat 0x100 with low | high
  · by_cases accepted : stale.Accepts (usAddress - 1) usNRegs
    · have status := callback_low_accepted stale row mirror pucRegBuffer low accepted
      constructor
      · intro exact
        have inside := exact.accepted.mp status
        omega
      · rintro (⟨high, _⟩ | ⟨_, refused⟩)
        · omega
        · exact absurd accepted refused
    · have rejected := callback_low_rejected stale row mirror pucRegBuffer low accepted
      rw [rejected]
      refine iff_of_true ⟨?_, nofun, fun _ => rfl⟩ (.inr ⟨low, accepted⟩)
      exact iff_of_false nofun (by omega)
  · by_cases fits : (usAddress - 1).toNat + usNRegs.toNat ≤ 0x100 + 100
    · obtain ⟨status, inside, _⟩ :=
        callback_high_accepted stale row mirror pucRegBuffer high fits
      refine iff_of_true ⟨?_, fun _ => inside, ?_⟩ (.inl ⟨high, by omega⟩)
      · exact iff_of_true status (.inl ⟨high, fits⟩)
      · intro refused
        cases status.symm.trans refused
    · have rejected :=
        callback_high_rejected stale row mirror pucRegBuffer high (Nat.lt_of_not_le fits)
      rw [rejected]
      constructor
      · intro exact
        have outside : ¬ (0x200 ≤ (usAddress - 1).toNat ∧
            (usAddress - 1).toNat + usNRegs.toNat ≤ 0x200 + 100) :=
          fun second => nomatch exact.accepted.mpr (.inr second)
        exact .inl ⟨high, outside⟩
      · rintro (⟨_, outside⟩ | ⟨low, _⟩)
        · refine ⟨iff_of_false nofun ?_, nofun, fun _ => rfl⟩
          rintro (first | second)
          · exact fits first.2
          · exact outside second
        · omega

theorem windowCheck_fails_at_second_range :
    ¬ WindowCheckExact 0x200 29 blankMirror
        (eMBMasterRegHoldingCB ⟨0, 0⟩ 0 blankMirror (fun _ => 0) 0x201 29) := by
  intro exact
  have status := exact.accepted.mpr (.inr (by decide))
  revert status
  decide +kernel

end ZhuoduControl.Modbus
