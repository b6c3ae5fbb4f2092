import ZhuoduControl.Library.Run
import ZhuoduControl.Modbus.HoldingCallbackProperties

/-! Runs of the mirror: responses on any window, in any order, from several
slaves, with menu edits in between. -/

set_option autoImplicit false

namespace ZhuoduControl.Modbus

open ZhuoduControl.Library
open ZhuoduControl.Data

structure Delivery where
  stale : HoldingRange
  row : Row
  pucRegBuffer : Memory U8
  usAddress : U16
  usNRegs : U16
  inRange : 0x100 ≤ (usAddress - 1).toNat

namespace Delivery

def first (delivery : Delivery) : Nat := (delivery.usAddress - 1).toNat

def count (delivery : Delivery) : Nat := delivery.usNRegs.toNat

def result (delivery : Delivery) (mirror : Mirror) : CallbackResult :=
  eMBMasterRegHoldingCB delivery.stale delivery.row mirror delivery.pucRegBuffer
    delivery.usAddress delivery.usNRegs

def Touches (delivery : Delivery) (field : Field) : Prop :=
  ∃ register, field.Owns register ∧
    delivery.first ≤ register ∧ register < delivery.first + delivery.count

/-- What the row holds for every register once the response is stored. -/
def bus (delivery : Delivery) (mirror : Mirror) : Memory U16 :=
  overlay mirror delivery.row delivery.pucRegBuffer delivery.first delivery.count

end Delivery

inductive MirrorEvent
  | deliver (delivery : Delivery)
  | edit (setting : Setting)

def mirrorStep (mirror : Mirror) : MirrorEvent → Option Mirror
  | .deliver delivery => some (delivery.result mirror).mirror
  | .edit setting => some { mirror with zhuoduData := mirror.zhuoduData.assign setting }

def ChangesOnlyDelivered (before : Mirror) (event : MirrorEvent) (after : Mirror) : Prop :=
  match event with
  | .deliver delivery => ∀ field : Field, ¬ delivery.Touches field →
      after.zhuoduData.read field = before.zhuoduData.read field
  | .edit _ => True

/-- Every member that the window does not touch already holds what the copy is
about to write there: its own buffered registers in the head of the range, the
misplaced ones behind it. -/
structure InStep (delivery : Delivery) (mirror : Mirror) : Prop where
  head : ∀ field ∈ headFields, ¬ delivery.Touches field →
    mirror.zhuoduData.read field = field.width.decode (delivery.bus mirror) field.register
  reserved : ¬ delivery.Touches .reserved →
    mirror.zhuoduData.read .reserved = .half (delivery.bus mirror 285)
  numCali : ¬ delivery.Touches .numCali →
    mirror.zhuoduData.read .numCali = .half (delivery.bus mirror 286)
  canbiGet : ¬ delivery.Touches .canbiGet →
    mirror.zhuoduData.read .canbiGet = .half (delivery.bus mirror 288)
  pointZero : ¬ delivery.Touches (.turbidimeterCaliBuf 0) →
    mirror.zhuoduData.read (.turbidimeterCaliBuf 0) =
      .float (Word.join (delivery.bus mirror 289) (delivery.bus mirror 287))
  pointOne : ¬ delivery.Touches (.turbidimeterCaliBuf 1) →
    mirror.zhuoduData.read (.turbidimeterCaliBuf 1) =
      .float (Word.join (delivery.bus mirror 291) (delivery.bus mirror 290))
  pointTwo : ¬ delivery.Touches (.turbidimeterCaliBuf 2) →
    mirror.zhuoduData (Field.offset (.turbidimeterCaliBuf 2)) = delivery.bus mirror 292

def MirrorInStep (before : Mirror) (event : MirrorEvent) (_ : Mirror) : Prop :=
  match event with
  | .deliver delivery =>
      delivery.first + delivery.count ≤ 0x100 + 100 → InStep delivery before
  | .edit _ => True

private theorem copied_keeps_iff (delivery : Delivery) (mirror : Mirror) :
    (∀ field : Field, ¬ delivery.Touches field →
        (copied mirror.zhuoduData (delivery.bus mirror)).read field =
          mirror.zhuoduData.read field) ↔ InStep delivery mirror := by
  constructor
  · intro keeps
    exact {
      head := by
        intro field member apart
        rw [← keeps field apart, read_copied_head member]
      reserved := by
        intro apart
        rw [← keeps _ apart, read_copied_reserved]
      numCali := by
        intro apart
        rw [← keeps _ apart, read_copied_numCali]
      canbiGet := by
        intro apart
        rw [← keeps _ apart, read_copied_canbiGet]
      pointZero := by
        intro apart
        rw [← keeps _ apart, read_copied_turbidimeterCali_zero]
      pointOne := by
        intro apart
        rw [← keeps _ apart, read_copied_turbidimeterCali_one]
      pointTwo := by
        intro apart
        have kept := keeps _ apart
        rw [read_copied_turbidimeterCali_two] at kept
        exact (Word.join_inj.mp (Value.float.inj kept)).2.symm }
  · intro agrees field apart
    have groups : ∀ field ∈ Field.declared, field ∈ headFields ++ keptFields ++
        [.reserved, .numCali, .canbiGet, .turbidimeterCaliBuf 0, .turbidimeterCaliBuf 1,
          .turbidimeterCaliBuf 2] := by
      decide +kernel
    rcases List.mem_append.mp (groups field (Field.mem_declared field)) with own | misplaced
    · rcases List.mem_append.mp own with head | kept
      · rw [read_copied_head head, agrees.head field head apart]
      · exact read_copied_kept kept _ _
    · simp only [List.mem_cons, List.not_mem_nil, or_false] at misplaced
      rcases misplaced with rfl | rfl | rfl | rfl | rfl | rfl
      · rw [read_copied_reserved, agrees.reserved apart]
      · rw [read_copied_numCali, agrees.numCali apart]
      · rw [read_copied_canbiGet, agrees.canbiGet apart]
      · rw [read_copied_turbidimeterCali_zero, agrees.pointZero apart]
      · rw [read_copied_turbidimeterCali_one, agrees.pointOne apart]
      · rw [read_copied_turbidimeterCali_two, ← agrees.pointTwo apart]
        rfl

private theorem changesOnlyDelivered_iff (before : Mirror) (event : MirrorEvent)
    (after : Mirror) (stepped : mirrorStep before event = some after) :
    ChangesOnlyDelivered before event after ↔ MirrorInStep before event after := by
  cases event with
  | edit setting => exact Iff.rfl
  | deliver delivery =>
      cases Option.some.inj stepped
      by_cases fits : delivery.first + delivery.count ≤ 0x100 + 100
      · obtain ⟨_, _, settings⟩ := callback_high_accepted delivery.stale delivery.row before
          delivery.pucRegBuffer delivery.inRange fits
        have effect : (delivery.result before).mirror.zhuoduData =
            copied before.zhuoduData (delivery.bus before) := settings
        simp only [ChangesOnlyDelivered, MirrorInStep, effect]
        exact (copied_keeps_iff delivery before).trans (imp_iff_right fits).symm
      · have refused : delivery.result before = ⟨.enoreg, [], before⟩ :=
          callback_high_rejected delivery.stale delivery.row before delivery.pucRegBuffer
            delivery.inRange (Nat.lt_of_not_le fits)
        simp only [ChangesOnlyDelivered, MirrorInStep, refused]
        exact iff_of_true (fun _ _ => trivial) fun inside => absurd inside fits

/-- In any run from power-up the responses leave foreign members alone exactly
when each of them finds the settings in step with the buffer. -/
theorem mirrorRun_changesOnlyDelivered_iff (events : List MirrorEvent) :
    Run.AllSteps mirrorStep ChangesOnlyDelivered powerUp events ↔
      Run.AllSteps mirrorStep MirrorInStep powerUp events :=
  Run.allSteps_iff_of_invariant (fun _ _ _ _ _ => trivial)
    (fun before event after _ stepped => changesOnlyDelivered_iff before event after stepped)
    events trivial

/-- The echo of the first write, `canbi_set := 5000`, clears the coefficient `a1`. -/
theorem mirrorRun_echo_clears_a1 :
    ¬ ∀ events, Run.AllSteps mirrorStep ChangesOnlyDelivered powerUp events := by
  intro always
  let echo : Delivery :=
    ⟨⟨0, 0⟩, 0, fun index => if index = 0 then 0x13 else 0x88, 0x101, 1, by decide⟩
  obtain ⟨keeps, _⟩ := always [.deliver echo] _ rfl
  have apart : ¬ echo.Touches .a1 := by
    rintro ⟨register, ⟨lower, _⟩, _, upper⟩
    have place : Field.register .a1 = 267 := by decide +kernel
    have last : echo.first + echo.count = 257 := by decide
    omega
  have kept := keeps .a1 apart
  revert kept
  decide +kernel

end ZhuoduControl.Modbus
