/-! Cell memories: total maps from cell numbers to values. A program's effect on
such a memory is a list of single-cell writes, so that a run cut between two
writes is a prefix of that list. -/

set_option autoImplicit false

namespace ZhuoduControl.Library

/-- A memory of equally sized cells, numbered from zero. -/
abbrev Memory (Cell : Type) := Nat → Cell

namespace Memory

variable {Cell : Type}

def set (memory : Memory Cell) (address : Nat) (value : Cell) : Memory Cell :=
  fun other => if other = address then value else memory other

/-- Perform single-cell writes in order; later writes win. -/
def setAll (memory : Memory Cell) : List (Nat × Cell) → Memory Cell
  | [] => memory
  | (address, value) :: rest => setAll (memory.set address value) rest

def block (address : Nat) : List Cell → List (Nat × Cell)
  | [] => []
  | value :: rest => (address, value) :: block (address + 1) rest

def store (memory : Memory Cell) (address : Nat) (values : List Cell) : Memory Cell :=
  memory.setAll (block address values)

/-- Perform cell-to-cell copies in order; each pair is a target and its source. -/
def copyAll (target source : Memory Cell) (moves : List (Nat × Nat)) : Memory Cell :=
  target.setAll (moves.map fun move => (move.1, source move.2))

/-- The source cell whose value a list of copies leaves in `address`, if any. -/
def copySource (address : Nat) : List (Nat × Nat) → Option Nat
  | [] => none
  | (target, source) :: rest =>
      (copySource address rest).or (if target = address then some source else none)

def load (memory : Memory Cell) (address : Nat) : Nat → List Cell
  | 0 => []
  | count + 1 => memory address :: load memory (address + 1) count

@[simp] theorem set_same (memory : Memory Cell) (address : Nat) (value : Cell) :
    memory.set address value address = value := by
  simp [set]

theorem set_other (memory : Memory Cell) {address other : Nat} (value : Cell)
    (different : other ≠ address) : memory.set address value other = memory other := by
  simp [set, different]

theorem set_self {memory : Memory Cell} {address : Nat} {value : Cell}
    (same : memory address = value) : memory.set address value = memory := by
  funext other
  by_cases here : other = address
  · rw [here, set_same, same]
  · exact set_other memory value here

@[simp] theorem setAll_nil (memory : Memory Cell) : memory.setAll [] = memory := rfl

@[simp] theorem setAll_cons (memory : Memory Cell) (write : Nat × Cell) (rest : List (Nat × Cell)) :
    memory.setAll (write :: rest) = (memory.set write.1 write.2).setAll rest := rfl

theorem setAll_append (memory : Memory Cell) (left right : List (Nat × Cell)) :
    memory.setAll (left ++ right) = (memory.setAll left).setAll right := by
  induction left generalizing memory with
  | nil => rfl
  | cons write rest ih => exact ih (memory.set write.1 write.2)

theorem setAll_untouched (memory : Memory Cell) (writes : List (Nat × Cell)) {address : Nat}
    (untouched : ∀ write ∈ writes, write.1 ≠ address) :
    memory.setAll writes address = memory address := by
  induction writes generalizing memory with
  | nil => rfl
  | cons write rest ih =>
      have later : ∀ other ∈ rest, other.1 ≠ address :=
        fun other member => untouched other (.tail _ member)
      rw [setAll_cons, ih (memory.set write.1 write.2) later]
      exact set_other memory write.2 (untouched write (.head _)).symm

theorem setAll_agreeing (memory : Memory Cell) (writes : List (Nat × Cell)) {address : Nat}
    {value : Cell} (reached : (address, value) ∈ writes)
    (agreeing : ∀ write ∈ writes, write.1 = address → write.2 = value) :
    memory.setAll writes address = value := by
  induction writes generalizing memory with
  | nil => cases reached
  | cons write rest ih =>
      rw [setAll_cons]
      by_cases again : ∃ other ∈ rest, other.1 = address
      · obtain ⟨other, member, same⟩ := again
        have carried := agreeing other (.tail _ member) same
        refine ih _ ?_ fun next nextMember => agreeing next (.tail _ nextMember)
        rw [← same, ← carried]
        exact member
      · have untouched : ∀ other ∈ rest, other.1 ≠ address :=
          fun other member same => again ⟨other, member, same⟩
        rw [setAll_untouched _ _ untouched]
        rcases List.mem_cons.mp reached with rfl | member
        · exact set_same memory address value
        · exact absurd rfl (untouched _ member)

theorem setAll_congr_untouched {first second : Memory Cell} {writes : List (Nat × Cell)}
    (same : ∀ address, (∀ write ∈ writes, write.1 ≠ address) → first address = second address) :
    first.setAll writes = second.setAll writes := by
  induction writes generalizing first second with
  | nil =>
      funext address
      exact same address fun _ member => nomatch member
  | cons write rest ih =>
      rw [setAll_cons, setAll_cons]
      refine ih fun address later => ?_
      by_cases here : address = write.1
      · rw [here, set_same, set_same]
      · rw [set_other _ _ here, set_other _ _ here]
        refine same address fun other member => ?_
        rcases List.mem_cons.mp member with rfl | inRest
        · exact Ne.symm here
        · exact later other inRest

theorem setAll_again (memory : Memory Cell) (writes : List (Nat × Cell)) :
    (memory.setAll writes).setAll writes = memory.setAll writes :=
  setAll_congr_untouched fun _ untouched => setAll_untouched memory writes untouched

theorem copyAll_apply (target source : Memory Cell) (moves : List (Nat × Nat)) (address : Nat) :
    target.copyAll source moves address =
      ((copySource address moves).map source).getD (target address) := by
  induction moves generalizing target with
  | nil => rfl
  | cons move rest ih =>
      obtain ⟨moved, taken⟩ := move
      have tail := ih (target.set moved (source taken))
      unfold copyAll at tail ⊢
      rw [List.map_cons, setAll_cons, tail, copySource]
      cases copySource address rest with
      | some found => rfl
      | none =>
          by_cases here : moved = address
          · simp [here]
          · simp [here, set_other _ _ (Ne.symm here)]

theorem copyAll_congr (target : Memory Cell) {first second : Memory Cell}
    {moves : List (Nat × Nat)} (same : ∀ move ∈ moves, first move.2 = second move.2) :
    target.copyAll first moves = target.copyAll second moves := by
  have writes : moves.map (fun move => (move.1, first move.2)) =
      moves.map (fun move => (move.1, second move.2)) :=
    List.map_congr_left fun move member => congrArg _ (same move member)
  rw [copyAll, writes, copyAll]

@[simp] theorem block_nil (address : Nat) : (block address [] : List (Nat × Cell)) = [] := rfl

@[simp] theorem block_cons (address : Nat) (value : Cell) (rest : List Cell) :
    block address (value :: rest) = (address, value) :: block (address + 1) rest := rfl

theorem block_take (address : Nat) (values : List Cell) (count : Nat) :
    (block address values).take count = block address (values.take count) := by
  induction values generalizing address count with
  | nil => simp
  | cons value rest ih =>
      cases count with
      | zero => rfl
      | succ count => simp [ih]

theorem mem_block {address : Nat} {values : List Cell} {write : Nat × Cell} :
    write ∈ block address values ↔
      ∃ index, values[index]? = some write.2 ∧ write.1 = address + index := by
  induction values generalizing address with
  | nil => simp
  | cons value rest ih =>
      rw [block_cons, List.mem_cons, ih]
      constructor
      · rintro (rfl | ⟨index, found, place⟩)
        · exact ⟨0, rfl, rfl⟩
        · exact ⟨index + 1, found, by omega⟩
      · rintro ⟨index, found, place⟩
        cases index with
        | zero =>
            simp only [List.getElem?_cons_zero, Option.some.injEq] at found
            exact .inl (Prod.ext place found.symm)
        | succ index => exact .inr ⟨index, by simpa using found, by omega⟩

theorem store_inside (memory : Memory Cell) (address : Nat) (values : List Cell) (index : Nat)
    (bound : index < values.length) :
    memory.store address values (address + index) = values[index] := by
  refine setAll_agreeing memory _ (mem_block.mpr ⟨index, ?_, rfl⟩) ?_
  · exact List.getElem?_eq_getElem bound
  · intro write member same
    obtain ⟨position, found, place⟩ := mem_block.mp member
    have equal : position = index := by omega
    rw [equal, List.getElem?_eq_getElem bound] at found
    exact (Option.some.inj found).symm

theorem store_outside (memory : Memory Cell) (address : Nat) (values : List Cell) {other : Nat}
    (outside : other < address ∨ address + values.length ≤ other) :
    memory.store address values other = memory other := by
  refine setAll_untouched memory _ ?_
  intro write member same
  obtain ⟨index, found, place⟩ := mem_block.mp member
  have bound : index < values.length := (List.getElem?_eq_some_iff.mp found).1
  omega

@[simp] theorem load_length (memory : Memory Cell) (address count : Nat) :
    (memory.load address count).length = count := by
  induction count generalizing address with
  | zero => rfl
  | succ count ih => simp [load, ih]

theorem load_getElem (memory : Memory Cell) (address count : Nat) (index : Nat)
    (bound : index < (memory.load address count).length) :
    (memory.load address count)[index] = memory (address + index) := by
  induction count generalizing address index with
  | zero => cases bound
  | succ count ih =>
      cases index with
      | zero => rfl
      | succ index =>
          have later := ih (address + 1) index (Nat.lt_of_succ_lt_succ bound)
          simp only [load, List.getElem_cons_succ, later]
          exact congrArg memory (Nat.add_right_comm address 1 index)

theorem store_load_inside (memory source : Memory Cell) {address count other : Nat}
    (lower : address ≤ other) (upper : other < address + count) :
    memory.store address (source.load address count) other = source other := by
  obtain ⟨index, rfl⟩ := Nat.exists_eq_add_of_le lower
  have bound : index < (source.load address count).length := by
    rw [load_length]
    omega
  rw [store_inside memory address _ index bound, load_getElem]

/-- A block that is written back where it was read changes nothing. -/
theorem store_load (memory : Memory Cell) (address count : Nat) :
    memory.store address (memory.load address count) = memory := by
  funext other
  by_cases inside : address ≤ other ∧ other < address + count
  · exact memory.store_load_inside memory inside.1 inside.2
  · refine memory.store_outside address _ ?_
    rw [load_length]
    omega

theorem load_take (memory : Memory Cell) (address size count : Nat) :
    (memory.load address size).take count = memory.load address (min count size) := by
  induction size generalizing address count with
  | zero => rw [Nat.min_zero, load, List.take_nil]
  | succ size ih =>
      cases count with
      | zero => rw [Nat.zero_min, load, List.take_zero]
      | succ count => rw [Nat.succ_min_succ, load, load, List.take_succ_cons, ih]

theorem load_append (memory : Memory Cell) (address count more : Nat) :
    memory.load address (count + more) =
      memory.load address count ++ memory.load (address + count) more := by
  induction count generalizing address with
  | zero => rw [Nat.zero_add, Nat.add_zero, load, List.nil_append]
  | succ count ih =>
      rw [Nat.succ_add, load, load, ih, List.cons_append, Nat.add_assoc, Nat.add_comm 1 count]

theorem load_congr {first second : Memory Cell} {address count : Nat}
    (same : ∀ other, address ≤ other → other < address + count → first other = second other) :
    first.load address count = second.load address count := by
  induction count generalizing address with
  | zero => rfl
  | succ count ih =>
      simp only [load]
      rw [same address (Nat.le_refl _) (by omega),
        ih fun other lower upper => same other (by omega) (by omega)]

theorem load_store_same (memory : Memory Cell) (address : Nat) (values : List Cell) :
    (memory.store address values).load address values.length = values := by
  induction values generalizing memory address with
  | nil => rfl
  | cons value rest ih =>
      have first : (memory.store address (value :: rest)) address = value :=
        store_inside memory address (value :: rest) 0 (Nat.zero_lt_succ _)
      rw [List.length_cons, load, first]
      exact congrArg _ (ih (memory.set address value) (address + 1))

theorem load_store_disjoint (memory : Memory Cell) {address other count : Nat} {values : List Cell}
    (disjoint : other + count ≤ address ∨ address + values.length ≤ other) :
    (memory.store address values).load other count = memory.load other count := by
  refine load_congr fun cell lower upper => ?_
  exact store_outside memory address values (by omega)

/-- The cells from `address` on hold the values. -/
def Holds (memory : Memory Cell) (address : Nat) (values : List Cell) : Prop :=
  memory.load address values.length = values

@[simp] theorem holds_nil (memory : Memory Cell) (address : Nat) : memory.Holds address [] := rfl

@[simp] theorem holds_cons {memory : Memory Cell} {address : Nat} {value : Cell}
    {rest : List Cell} :
    memory.Holds address (value :: rest) ↔
      memory address = value ∧ memory.Holds (address + 1) rest :=
  List.cons_eq_cons

@[simp] theorem holds_append {memory : Memory Cell} {address : Nat} {first second : List Cell} :
    memory.Holds address (first ++ second) ↔
      memory.Holds address first ∧ memory.Holds (address + first.length) second := by
  unfold Holds
  rw [List.length_append, load_append]
  constructor
  · exact fun same => List.append_inj same (load_length ..)
  · rintro ⟨front, back⟩
    rw [front, back]

theorem holds_iff {memory : Memory Cell} {address : Nat} {values : List Cell} :
    memory.Holds address values ↔
      ∀ index (inside : index < values.length), memory (address + index) = values[index] := by
  induction values generalizing address with
  | nil => simp
  | cons value rest ih =>
      rw [holds_cons, ih]
      constructor
      · rintro ⟨first, later⟩ index inside
        cases index with
        | zero => exact first
        | succ index =>
            have place : address + (index + 1) = address + 1 + index := by omega
            rw [place]
            exact later index (Nat.lt_of_succ_lt_succ inside)
      · intro all
        refine ⟨all 0 (Nat.zero_lt_succ _), fun index inside => ?_⟩
        have place : address + 1 + index = address + (index + 1) := by omega
        rw [place]
        exact all (index + 1) (Nat.succ_lt_succ inside)

theorem holds_store (memory : Memory Cell) (address : Nat) (values : List Cell) :
    (memory.store address values).Holds address values := load_store_same memory address values

end Memory

end ZhuoduControl.Library
