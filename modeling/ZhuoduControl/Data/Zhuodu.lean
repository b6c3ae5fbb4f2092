import ZhuoduControl.Data.Word
import ZhuoduControl.Library.Layout
import ZhuoduControl.Library.Memory

/-! The instrument data shared with the measuring head: the members of
`Zhuodu_t`, their place in memory and the holding registers they mirror. -/

set_option autoImplicit false

namespace ZhuoduControl.Data

open ZhuoduControl.Library

inductive Width
  | half
  | float
deriving DecidableEq, Repr

/-- Size in half-words, which is also the number of registers. -/
def Width.size : Width → Nat
  | .half => 1
  | .float => 2

/-- For the numerals of the four calibration points and of their eight boxes. -/
instance points_neZero : @NeZero Nat Zero.ofOfNat0 4 := ⟨Nat.succ_ne_zero 3⟩

instance boxes_neZero : @NeZero Nat Zero.ofOfNat0 8 := ⟨Nat.succ_ne_zero 7⟩

inductive Field
  | canbiSet | bright2 | bright3 | brightRange | temp
  | turbidimeter | turbidimeterRange | absorbance
  | a1 | b1 | a2 | b2 | a3 | b3 | a1k1
  | segRange1 | segRange2 | rangeSel
  | a2Zero | canbiCalcGet
  | maStat | reserved | numCali | canbiGet
  | turbidimeterCaliBuf (index : Fin 4)
  | absorbanceCaliBuf (index : Fin 4)
  | caliDataWrite | dataVal0
  | segRange3 | segRange4 | a4 | b4
  | cmdA3Full | cmdA2Zero
  | zhuoduAddr
deriving DecidableEq, Repr

namespace Field

def width : Field → Width
  | turbidimeter | turbidimeterRange | absorbance => .float
  | a1 | b1 | a2 | b2 | a3 | b3 | a1k1 => .float
  | segRange1 | segRange2 | canbiCalcGet => .float
  | turbidimeterCaliBuf _ | absorbanceCaliBuf _ => .float
  | segRange3 | segRange4 | a4 | b4 => .float
  | _ => .half

def canbiFields : List Field :=
  [canbiSet, bright2, bright3, brightRange, temp, turbidimeter, turbidimeterRange, absorbance,
    a1, b1, a2, b2, a3, b3, a1k1, segRange1, segRange2, rangeSel, a2Zero, canbiCalcGet,
    maStat, reserved, numCali, canbiGet]

def caliFields : List Field :=
  [turbidimeterCaliBuf 0, turbidimeterCaliBuf 1, turbidimeterCaliBuf 2, turbidimeterCaliBuf 3,
    absorbanceCaliBuf 0, absorbanceCaliBuf 1, absorbanceCaliBuf 2, absorbanceCaliBuf 3,
    caliDataWrite, dataVal0, segRange3, segRange4, a4, b4, cmdA3Full, cmdA2Zero, zhuoduAddr]

def declared : List Field := canbiFields ++ caliFields

theorem mem_declared (field : Field) : field ∈ declared := by
  cases field with
  | turbidimeterCaliBuf index => revert index; decide
  | absorbanceCaliBuf index => revert index; decide
  | _ => decide

/-- In memory a `float` is aligned to two half-words. -/
def member (field : Field) : Member Field :=
  ⟨field, field.width.size, field.width.size⟩

/-- On the bus members follow one another without padding. -/
def registerMember (field : Field) : Member Field :=
  ⟨field, field.width.size, 1⟩

/-- Offset in half-words of a member inside `Zhuodu_t`. -/
def offset (field : Field) : Nat :=
  Layout.offsetOf (declared.map member) field

end Field

inductive Block
  | canbi
  | cali
deriving DecidableEq, Repr

namespace Block

def start : Block → Nat
  | canbi => 0x100
  | cali => 0x200

def fields : Block → List Field
  | canbi => Field.canbiFields
  | cali => Field.caliFields

def count (block : Block) : Nat :=
  Layout.finish 0 (block.fields.map Field.registerMember)

end Block

namespace Field

def block (field : Field) : Block :=
  if field ∈ canbiFields then .canbi else .cali

def register (field : Field) : Nat :=
  field.block.start + Layout.offsetOf (field.block.fields.map registerMember) field

def Owns (field : Field) (address : Nat) : Prop :=
  field.register ≤ address ∧ address < field.register + field.width.size

instance (field : Field) (address : Nat) : Decidable (field.Owns address) :=
  inferInstanceAs (Decidable (_ ∧ _))

def address (field : Field) : U16 :=
  BitVec.ofNat 16 field.register

theorem address_toNat (field : Field) : field.address.toNat = field.register := by
  have small : ∀ field ∈ declared, field.register < 65536 := by decide +kernel
  exact Nat.mod_eq_of_lt (small field (mem_declared field))

theorem size_pos (field : Field) : 0 < field.width.size := by
  cases field.width <;> decide

theorem offset_disjoint {left right : Field} (different : left ≠ right) :
    left.offset + left.width.size ≤ right.offset ∨
      right.offset + right.width.size ≤ left.offset := by
  have names : ∀ field : Field, field ∈ (declared.map member).map Member.name := by
    intro field
    simpa [member] using mem_declared field
  refine Layout.offsetOf_disjoint ?_ (fun field => field.width.size) ?_
    (names left) (names right) different
  · intro placed present
    obtain ⟨field, _, rfl⟩ := List.mem_map.mp present
    exact size_pos field
  · decide +kernel

theorem owner_unique {left right : Field} {address : Nat} (ownsLeft : left.Owns address)
    (ownsRight : right.Owns address) : left = right := by
  have apart : ∀ left ∈ declared, ∀ right ∈ declared, left ≠ right →
      left.register + left.width.size ≤ right.register ∨
        right.register + right.width.size ≤ left.register := by
    decide +kernel
  by_contra different
  have := apart left (mem_declared left) right (mem_declared right) different
  unfold Owns at ownsLeft ownsRight
  omega

theorem register_inj {left right : Field} (same : left.register = right.register) :
    left = right :=
  owner_unique ⟨Nat.le_refl _, Nat.lt_add_of_pos_right (size_pos left)⟩
    ⟨Nat.le_of_eq same.symm, same ▸ Nat.lt_add_of_pos_right (size_pos right)⟩

end Field

/-- The content of a member; a `float` is its bit pattern. -/
inductive Value
  | half (word : U16)
  | float (bits : U32)
deriving DecidableEq, Repr

namespace Value

def width : Value → Width
  | half _ => .half
  | float _ => .float

/-- Memory image, low half-word first. -/
def halfWords : Value → List U16
  | half word => [word]
  | float bits => [Word.lowWord bits, Word.highWord bits]

/-- Bus image, high word first. -/
def registers : Value → List U16
  | half word => [word]
  | float bits => [Word.highWord bits, Word.lowWord bits]

theorem halfWords_length (value : Value) : value.halfWords.length = value.width.size := by
  cases value <;> rfl

end Value

namespace Width

def fetch (width : Width) (memory : Memory U16) (address : Nat) : Value :=
  match width with
  | .half => .half (memory address)
  | .float => .float (Word.join (memory (address + 1)) (memory address))

def decode (width : Width) (bus : Memory U16) (address : Nat) : Value :=
  match width with
  | .half => .half (bus address)
  | .float => .float (Word.join (bus address) (bus (address + 1)))

def registerIndex (width : Width) (index : Nat) : Nat :=
  width.size - 1 - index

theorem fetch_eq_fetch (width : Width) {first second : Memory U16} {address other : Nat} :
    width.fetch first address = width.fetch second other ↔
      ∀ index, index < width.size → first (address + index) = second (other + index) := by
  cases width with
  | half => simp [fetch, size]
  | float =>
      simp only [fetch, size, Value.float.injEq, Word.join_inj, Nat.forall_lt_succ_right]
      simp [and_comm]

theorem fetch_eq_decode (width : Width) {memory bus : Memory U16} {address register : Nat} :
    width.fetch memory address = width.decode bus register ↔
      ∀ index, index < width.size →
        memory (address + index) = bus (register + width.registerIndex index) := by
  cases width with
  | half => simp [fetch, decode, size, registerIndex]
  | float =>
      simp only [fetch, decode, size, registerIndex, Value.float.injEq, Word.join_inj,
        Nat.forall_lt_succ_right]
      simp [and_comm]

end Width

theorem Value.fetch_store (value : Value) (memory : Memory U16) (address : Nat) :
    value.width.fetch (memory.store address value.halfWords) address = value := by
  cases value with
  | half word => simp [width, Width.fetch, halfWords, Memory.store]
  | float bits => simp [width, Width.fetch, halfWords, Memory.store, Memory.set]

theorem Value.decode_store (value : Value) (bus : Memory U16) (register : Nat) :
    value.width.decode (bus.store register value.registers) register = value := by
  cases value with
  | half word => simp [width, Width.decode, registers, Memory.store]
  | float bits => simp [width, Width.decode, registers, Memory.store, Memory.set]

theorem Width.decode_congr (width : Width) {first second : Memory U16} {register : Nat}
    (same : ∀ other, register ≤ other → other < register + width.size →
      first other = second other) :
    width.decode first register = width.decode second register := by
  cases width with
  | half => exact congrArg Value.half (same register (Nat.le_refl _) (Nat.lt_succ_self _))
  | float =>
      have high := same register (Nat.le_refl _) (Nat.lt_add_of_pos_right (by decide))
      have low := same (register + 1) (Nat.le_succ _) (Nat.lt_succ_self _)
      simp only [decode, high, low]

theorem Value.registers_length (value : Value) : value.registers.length = value.width.size := by
  cases value <;> rfl

/-- A member together with a content of its own width. -/
structure Setting where
  field : Field
  value : Value
  fits : value.width = field.width
deriving DecidableEq, Repr

/-- The image of `Zhuodu_t`, in half-words. -/
abbrev Zhuodu := Memory U16

namespace Zhuodu

def read (zhuodu : Zhuodu) (field : Field) : Value :=
  field.width.fetch zhuodu field.offset

/-- The bit pattern of a `float` member. -/
def readFloat (zhuodu : Zhuodu) (field : Field) : U32 :=
  Word.join (zhuodu (field.offset + 1)) (zhuodu field.offset)

/-- The half-word of a member of 16 bits. -/
def readHalf (zhuodu : Zhuodu) (field : Field) : U16 := zhuodu field.offset

theorem read_float (zhuodu : Zhuodu) {field : Field} (float : field.width = .float) :
    zhuodu.read field = .float (zhuodu.readFloat field) := by
  rw [read, float]
  rfl

def assign (zhuodu : Zhuodu) (setting : Setting) : Zhuodu :=
  zhuodu.store setting.field.offset setting.value.halfWords

theorem read_eq_read {first second : Zhuodu} {field : Field} :
    first.read field = second.read field ↔
      ∀ index, index < field.width.size →
        first (field.offset + index) = second (field.offset + index) :=
  field.width.fetch_eq_fetch

@[simp] theorem read_assign_same (zhuodu : Zhuodu) (setting : Setting) :
    (zhuodu.assign setting).read setting.field = setting.value := by
  unfold read assign
  rw [← setting.fits]
  exact setting.value.fetch_store zhuodu _

theorem assign_read (zhuodu : Zhuodu) {setting : Setting}
    (same : setting.value = zhuodu.read setting.field) : zhuodu.assign setting = zhuodu := by
  have words : setting.value.halfWords = zhuodu.load setting.field.offset setting.field.width.size := by
    rw [same, read]
    cases setting.field.width with
    | half => rfl
    | float => simp [Width.fetch, Value.halfWords, Width.size, Memory.load]
  rw [assign, words]
  exact zhuodu.store_load _ _

theorem read_assign_other (zhuodu : Zhuodu) {setting : Setting} {field : Field}
    (different : field ≠ setting.field) :
    (zhuodu.assign setting).read field = zhuodu.read field := by
  refine read_eq_read.mpr fun index bound => ?_
  have apart := Field.offset_disjoint different
  have length : setting.value.halfWords.length = setting.field.width.size := by
    rw [setting.value.halfWords_length, setting.fits]
  exact Memory.store_outside _ _ _ (by omega)

end Zhuodu

end ZhuoduControl.Data
