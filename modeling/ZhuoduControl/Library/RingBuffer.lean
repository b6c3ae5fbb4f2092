import ZhuoduControl.Library.Memory

/-! A ring of slots with an index to read at and one to write at. Equal indices are an empty
ring, so that one slot always stays free. -/

set_option autoImplicit false

namespace ZhuoduControl.Library.RingBuffer

variable {Cell : Type} {buf : Memory Cell} {size read write : Nat}

def next (size index : Nat) : Nat :=
  if size ≤ index + 1 then 0 else index + 1

/-- The number of filled slots. -/
def count (size read write : Nat) : Nat :=
  if read ≤ write then write - read else write + size - read

/-- `count` slots of the ring from an index on. -/
def slots (buf : Memory Cell) (size read : Nat) : Nat → List Cell
  | 0 => []
  | count + 1 => buf read :: slots buf size (next size read) count

def contents (buf : Memory Cell) (size read write : Nat) : List Cell :=
  slots buf size read (count size read write)

theorem next_lt (inside : read < size) : next size read < size := by
  unfold next
  split <;> omega

@[simp] theorem count_self (size read : Nat) : count size read read = 0 := by
  simp [count]

@[simp] theorem slots_length (buf : Memory Cell) (size read count : Nat) :
    (slots buf size read count).length = count := by
  induction count generalizing read with
  | zero => rfl
  | succ count ih => simp [slots, ih]

@[simp] theorem contents_length : (contents buf size read write).length = count size read write :=
  slots_length buf size read _

@[simp] theorem contents_self (buf : Memory Cell) (size read : Nat) :
    contents buf size read read = [] := by
  simp [contents, slots]

theorem count_next_write (readInside : read < size) (writeInside : write < size)
    (room : count size read write + 1 < size) :
    count size read (next size write) = count size read write + 1 := by
  unfold count next at *
  grind

theorem next_of_full (readInside : read < size) (writeInside : write < size)
    (full : size ≤ count size read write + 1) : next size write = read := by
  unfold count at full
  unfold next
  grind

theorem count_next_read (readInside : read < size) (writeInside : write < size)
    (filled : read ≠ write) :
    count size read write = count size (next size read) write + 1 := by
  unfold count next
  grind

theorem slots_set (value : Cell) (readInside : read < size) (writeInside : write < size)
    {count : Nat} (before : count ≤ RingBuffer.count size read write) :
    slots (buf.set write value) size read count = slots buf size read count := by
  induction count generalizing read with
  | zero => rfl
  | succ count ih =>
      have filled : read ≠ write := by
        rintro rfl
        simp at before
      have later := count_next_read readInside writeInside filled
      rw [slots, slots, Memory.set_other _ _ filled, ih (next_lt readInside) (by omega)]

theorem slots_succ (readInside : read < size) (writeInside : write < size)
    {count : Nat} (reaches : count = RingBuffer.count size read write) :
    slots buf size read (count + 1) = slots buf size read count ++ [buf write] := by
  induction count generalizing read with
  | zero =>
      have same : read = write := by
        unfold RingBuffer.count at reaches
        split at reaches <;> omega
      rw [same]
      rfl
  | succ count ih =>
      have filled : read ≠ write := by
        rintro rfl
        simp at reaches
      have later := count_next_read readInside writeInside filled
      rw [slots, ih (next_lt readInside) (by omega)]
      rfl

/-- What is written while a slot stays free comes behind what is there. -/
theorem contents_write (buf : Memory Cell) (value : Cell) (readInside : read < size) (writeInside : write < size)
    (room : count size read write + 1 < size) :
    contents (buf.set write value) size read (next size write) =
      contents buf size read write ++ [value] := by
  rw [contents, count_next_write readInside writeInside room,
    slots_succ readInside writeInside rfl, slots_set value readInside writeInside (Nat.le_refl _),
    Memory.set_same, contents]

/-- What is written into the last free slot makes the ring an empty one. -/
theorem contents_overrun (buf : Memory Cell) (readInside : read < size)
    (writeInside : write < size) (full : size ≤ count size read write + 1) :
    contents buf size read (next size write) = [] := by
  rw [next_of_full readInside writeInside full, contents_self]

theorem contents_read (readInside : read < size) (writeInside : write < size)
    (filled : read ≠ write) :
    contents buf size read write = buf read :: contents buf size (next size read) write := by
  rw [contents, count_next_read readInside writeInside filled]
  rfl

end ZhuoduControl.Library.RingBuffer
