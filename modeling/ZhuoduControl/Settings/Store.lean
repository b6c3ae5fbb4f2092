import ZhuoduControl.Data.Word
import ZhuoduControl.Library.Layout
import ZhuoduControl.Library.LittleEndian
import ZhuoduControl.Library.Memory

/-! The image of the settings in the FRAM: the members of `E2P_TypeDef`, the marker in
front of them and the factory settings. -/

set_option autoImplicit false

namespace ZhuoduControl.Settings

open ZhuoduControl.Library
open ZhuoduControl.Data

def eeFullRecoveryIng : U16 := 0x6066
def eeFullRecoveryOver : U16 := 0x60B6
def eeResetFactoryIng : U16 := 0x6516
def eeResetFactoryOver : U16 := 0x6A16

inductive E2PField
  | eeprom
  | eeRwTest
  | lcdContrast
  | isDispReverse
  | password
  | unprotected
  | language
  | commFormat
  | commBaud
  | commDatabit
  | commParity
  | commDeviceId
  | zhuoduAddr
  | relay1AlarmType
  | relay1AlarmVal
  | relay1AlarmDelay
  | relay2AlarmType
  | relay2AlarmVal
  | relay2AlarmDelay
  | unit
  | tempCompensate
  | serialNo
  | cleanInterval
  | cleanTime
  | backlight
deriving DecidableEq, Repr

def e2pMembers : List (Member E2PField) :=
  [⟨.eeprom, 2, 2⟩, ⟨.eeRwTest, 2, 2⟩, ⟨.lcdContrast, 1, 1⟩, ⟨.isDispReverse, 1, 1⟩,
    ⟨.password, 4, 4⟩, ⟨.unprotected, 1, 1⟩, ⟨.language, 1, 1⟩, ⟨.commFormat, 1, 1⟩,
    ⟨.commBaud, 1, 1⟩, ⟨.commDatabit, 1, 1⟩, ⟨.commParity, 1, 1⟩, ⟨.commDeviceId, 1, 1⟩,
    ⟨.zhuoduAddr, 1, 1⟩, ⟨.relay1AlarmType, 1, 1⟩, ⟨.relay1AlarmVal, 4, 4⟩,
    ⟨.relay1AlarmDelay, 4, 4⟩, ⟨.relay2AlarmType, 1, 1⟩, ⟨.relay2AlarmVal, 4, 4⟩,
    ⟨.relay2AlarmDelay, 4, 4⟩, ⟨.unit, 1, 1⟩, ⟨.tempCompensate, 2, 2⟩, ⟨.serialNo, 4, 4⟩,
    ⟨.cleanInterval, 4, 4⟩, ⟨.cleanTime, 4, 4⟩, ⟨.backlight, 1, 1⟩]

namespace E2PField

def offset (field : E2PField) : Nat :=
  Layout.offsetOf e2pMembers field

def size (field : E2PField) : Nat :=
  match e2pMembers.find? (fun member => decide (member.name = field)) with
  | some member => member.size
  | none => 0

theorem declared (field : E2PField) : field ∈ e2pMembers.map Member.name := by
  cases field <;> decide

theorem disjoint {left right : E2PField} (different : left ≠ right) :
    left.offset + left.size ≤ right.offset ∨ right.offset + right.size ≤ left.offset :=
  Layout.offsetOf_disjoint (by decide) size (by decide +kernel) left.declared right.declared
    different

def stored (field : E2PField) (fram : Memory U8) : Nat :=
  LittleEndian.decode (fram.load field.offset field.size)

def write (field : E2PField) (value : Nat) (fram : Memory U8) : Memory U8 :=
  fram.store field.offset (LittleEndian.encode field.size value)

theorem stored_write_same (field : E2PField) (value : Nat) (fram : Memory U8) :
    field.stored (field.write value fram) = value % 256 ^ field.size := by
  have read := Memory.load_store_same fram field.offset (LittleEndian.encode field.size value)
  rw [LittleEndian.encode_length] at read
  rw [stored, write, read, LittleEndian.decode_encode]

theorem write_stored (field : E2PField) (fram : Memory U8) :
    field.write (field.stored fram) fram = fram := by
  have bytes := LittleEndian.encode_decode (fram.load field.offset field.size)
  rw [Memory.load_length] at bytes
  rw [write, stored, bytes]
  exact fram.store_load _ _

theorem load_write_other {field other : E2PField} (different : other ≠ field) (value : Nat)
    (fram : Memory U8) :
    (field.write value fram).load other.offset other.size = fram.load other.offset other.size := by
  refine Memory.load_store_disjoint fram ?_
  rw [LittleEndian.encode_length]
  exact disjoint different

theorem stored_lt (field : E2PField) (fram : Memory U8) :
    field.stored fram < 256 ^ field.size := by
  have bound := LittleEndian.decode_lt (fram.load field.offset field.size)
  rwa [Memory.load_length] at bound

end E2PField

/-- `sizeof(E2P_TypeDef)` -/
def e2pSize : Nat := Layout.sizeOf e2pMembers

/-- `EE_UNPROTECTED()` -/
def eeUnprotected : Nat := E2PField.offset .unprotected

/-- The members of `c_FactorySetting` in order; a `float` 0 has the bits 0. -/
def factoryValues : List (E2PField × Nat) :=
  [(.eeprom, eeFullRecoveryOver.toNat), (.eeRwTest, 0x55AA), (.lcdContrast, 30),
    (.isDispReverse, 1), (.password, 10000), (.unprotected, 0), (.language, 1),
    (.commFormat, 0), (.commBaud, 3), (.commDatabit, 0), (.commParity, 0), (.commDeviceId, 1),
    (.zhuoduAddr, 1), (.relay1AlarmType, 0), (.relay1AlarmVal, 0), (.relay1AlarmDelay, 0),
    (.relay2AlarmType, 0), (.relay2AlarmVal, 0), (.relay2AlarmDelay, 0), (.unit, 0),
    (.tempCompensate, 0), (.serialNo, 586007), (.cleanInterval, 36000), (.cleanTime, 1),
    (.backlight, 0)]

/-- `c_FactorySetting` as bytes; the padding is zero. -/
def cFactorySetting : Memory U8 :=
  factoryValues.foldl (fun image entry => entry.1.write entry.2 image) fun _ => 0

/-- The two bytes that `global_init` reads into `eeprom`. -/
def eeprom (fram : Memory U8) : U16 := Word.bigEndian (fram 1) (fram 0)

theorem eeprom_eq_iff {fram : Memory U8} {word : U16} :
    eeprom fram = word ↔ fram 0 = Word.lowByte word ∧ fram 1 = Word.highByte word := by
  constructor
  · rintro rfl
    exact ⟨(Word.lowByte_bigEndian _ _).symm, (Word.highByte_bigEndian _ _).symm⟩
  · rintro ⟨low, high⟩
    rw [eeprom, low, high, Word.bigEndian_bytes]

theorem eeUnprotected_eq : eeUnprotected = 12 :=
  show Layout.offsetOf e2pMembers .unprotected = 12 by decide +kernel

theorem e2pSize_eq : e2pSize = 64 :=
  show Layout.sizeOf e2pMembers = 64 by decide +kernel

end ZhuoduControl.Settings
