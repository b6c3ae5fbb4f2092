import ZhuoduControl.Library.Memory

/-! Parts of a memory: the cells from an offset on as a memory of their own, and the first
cells with others behind them. An operation stays within its first cells when it makes no
difference whether the others are exchanged before it or behind it. -/

set_option autoImplicit false

namespace ZhuoduControl.Library.Memory

variable {Cell : Type}

/-- The cells from `offset` on. -/
def part (memory : Memory Cell) (offset : Nat) : Memory Cell := fun index => memory (offset + index)

def withPart (memory : Memory Cell) (offset : Nat) (rest : Memory Cell) : Memory Cell := fun index =>
  if index < offset then memory index else rest (index - offset)

/-- The first `size` cells, with those of `outside` behind them. -/
def beyond (memory : Memory Cell) (size : Nat) (outside : Memory Cell) : Memory Cell :=
  fun address => if address < size then memory address else outside address

section Beyond

variable {memory outside : Memory Cell} {size : Nat}

theorem beyond_inside {address : Nat} (inside : address < size) :
    memory.beyond size outside address = memory address := if_pos inside

theorem beyond_outside {address : Nat} (behind : size ≤ address) :
    memory.beyond size outside address = outside address := if_neg (Nat.not_lt.mpr behind)

theorem beyond_set {address : Nat} (inside : address < size) (value : Cell) :
    (memory.beyond size outside).set address value =
      (memory.set address value).beyond size outside := by
  funext other
  by_cases here : other = address
  · rw [here, set_same, beyond_inside inside, set_same]
  · rw [set_other _ _ here]
    unfold beyond
    rw [set_other _ _ here]

theorem beyond_setAll {writes : List (Nat × Cell)} (inside : ∀ write ∈ writes, write.1 < size) :
    (memory.beyond size outside).setAll writes = (memory.setAll writes).beyond size outside := by
  induction writes generalizing memory with
  | nil => rfl
  | cons write rest ih =>
      rw [setAll_cons, setAll_cons, beyond_set (inside write (.head _))]
      exact ih fun other member => inside other (.tail _ member)

theorem beyond_store {address : Nat} {values : List Cell} (inside : address + values.length ≤ size) :
    (memory.beyond size outside).store address values =
      (memory.store address values).beyond size outside := by
  apply beyond_setAll
  intro write member
  obtain ⟨index, found, place⟩ := mem_block.mp member
  have bound : index < values.length := (List.getElem?_eq_some_iff.mp found).1
  omega

theorem beyond_load {address count : Nat} (inside : address + count ≤ size) :
    (memory.beyond size outside).load address count = memory.load address count :=
  load_congr fun _ _ upper => beyond_inside (Nat.lt_of_lt_of_le upper inside)

variable {offset : Nat}

theorem part_beyond (fits : offset ≤ size) :
    (memory.beyond size outside).part offset =
      (memory.part offset).beyond (size - offset) (outside.part offset) := by
  funext index
  rw [part]
  by_cases inside : index < size - offset
  · have within : offset + index < size := by omega
    rw [beyond_inside within, beyond_inside inside]
    rfl
  · have behind : size ≤ offset + index := by omega
    rw [beyond_outside behind, beyond_outside (Nat.le_of_not_lt inside)]
    rfl

theorem withPart_beyond (fits : offset ≤ size) (rest : Memory Cell) :
    (memory.beyond size outside).withPart offset
        (rest.beyond (size - offset) (outside.part offset)) =
      (memory.withPart offset rest).beyond size outside := by
  funext index
  unfold withPart
  by_cases front : index < offset
  · have inside : index < size := Nat.lt_of_lt_of_le front fits
    rw [if_pos front, beyond_inside inside, beyond_inside inside, if_pos front]
  · have place : offset + (index - offset) = index := Nat.add_sub_of_le (Nat.le_of_not_lt front)
    rw [if_neg front]
    by_cases inside : index < size
    · have within : index - offset < size - offset := by omega
      rw [beyond_inside within, beyond_inside inside, if_neg front]
    · have behind : size - offset ≤ index - offset := by omega
      rw [beyond_outside behind, beyond_outside (Nat.le_of_not_lt inside), part, place]

end Beyond

end ZhuoduControl.Library.Memory
