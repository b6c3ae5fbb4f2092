import Mathlib.Algebra.Group.Nat.Defs
import ZhuoduControl.Library.Memory

/-! A memory behind an address latch that every access increments, over the whole array
and back to its beginning. -/

set_option autoImplicit false

namespace ZhuoduControl.Library

structure SerialMemory (width : Nat) (Cell : Type) where
  memory : Memory Cell
  latch : BitVec width

namespace SerialMemory

variable {width : Nat} {Cell : Type}

def write (array : SerialMemory width Cell) (value : Cell) : SerialMemory width Cell :=
  ⟨array.memory.set array.latch.toNat value, array.latch + 1⟩

def read (array : SerialMemory width Cell) : Cell × SerialMemory width Cell :=
  (array.memory array.latch.toNat, ⟨array.memory, array.latch + 1⟩)

def writeAll (array : SerialMemory width Cell) (values : List Cell) : SerialMemory width Cell :=
  values.foldl write array

def readAll (array : SerialMemory width Cell) : Nat → List Cell × SerialMemory width Cell
  | 0 => ([], array)
  | count + 1 =>
      let (value, next) := array.read
      let (values, last) := next.readAll count
      (value :: values, last)

theorem latch_succ {latch : BitVec width} (inside : latch.toNat + 1 < 2 ^ width) :
    (latch + 1).toNat = latch.toNat + 1 := by
  have wide : 1 < 2 ^ width := by omega
  have one : (1 : BitVec width).toNat = 1 := Nat.mod_eq_of_lt wide
  rw [BitVec.toNat_add, one, Nat.mod_eq_of_lt inside]

/-- A run of writes that stays inside the array is a block. -/
theorem writeAll_memory {array : SerialMemory width Cell} {values : List Cell}
    (inside : array.latch.toNat + values.length ≤ 2 ^ width) :
    (array.writeAll values).memory = array.memory.store array.latch.toNat values := by
  induction values generalizing array with
  | nil => rfl
  | cons value rest ih =>
      have step : array.writeAll (value :: rest) = (array.write value).writeAll rest := rfl
      rw [step]
      cases rest with
      | nil => rfl
      | cons next others =>
          rw [List.length_cons, List.length_cons] at inside
          have succ : (array.write value).latch.toNat = array.latch.toNat + 1 :=
            latch_succ (by omega)
          rw [ih (by rw [succ, List.length_cons]; omega), succ]
          rfl

theorem readAll_memory (array : SerialMemory width Cell) (count : Nat) :
    (array.readAll count).2.memory = array.memory := by
  induction count generalizing array with
  | zero => rfl
  | succ count ih => exact ih array.read.2

theorem readAll_values {array : SerialMemory width Cell} {count : Nat}
    (inside : array.latch.toNat + count ≤ 2 ^ width) :
    (array.readAll count).1 = array.memory.load array.latch.toNat count := by
  induction count generalizing array with
  | zero => rfl
  | succ count ih =>
      have step : (array.readAll (count + 1)).1 =
          array.memory array.latch.toNat :: (array.read.2.readAll count).1 := rfl
      rw [step, Memory.load]
      cases count with
      | zero => rfl
      | succ count =>
          have succ : array.read.2.latch.toNat = array.latch.toNat + 1 := latch_succ (by omega)
          rw [ih (by rw [succ]; omega), succ]
          rfl

end SerialMemory

end ZhuoduControl.Library
