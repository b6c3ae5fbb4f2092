import ZhuoduControl.Library.Memory

/-! Updates that a power loss may cut after any single-cell write, and start-up code
that is itself cut any number of times before it completes. -/

set_option autoImplicit false

namespace ZhuoduControl.Library.Crash

variable {Cell : Type}

def cut (memory : Memory Cell) (writes : List (Nat × Cell)) (count : Nat) : Memory Cell :=
  memory.setAll (writes.take count)

/-- Start-up runs, cut after so many writes each, and a last one that completes. What
a run writes depends on the memory it finds. -/
def restarts (boot : Memory Cell → List (Nat × Cell)) (memory : Memory Cell) :
    List Nat → Memory Cell
  | [] => memory.setAll (boot memory)
  | count :: rest => restarts boot (cut memory (boot memory) count) rest

/-- The run that completes still finds what every cut run keeps. -/
theorem restarts_invariant {boot : Memory Cell → List (Nat × Cell)}
    {invariant : Memory Cell → Prop}
    (kept : ∀ memory count, invariant memory → invariant (cut memory (boot memory) count))
    {memory : Memory Cell} (initial : invariant memory) (counts : List Nat) :
    ∃ last, invariant last ∧ restarts boot memory counts = last.setAll (boot last) := by
  induction counts generalizing memory with
  | nil => exact ⟨memory, initial, rfl⟩
  | cons count rest ih => exact ih (kept memory count initial)

@[simp] theorem cut_zero (memory : Memory Cell) (writes : List (Nat × Cell)) :
    cut memory writes 0 = memory := rfl

@[simp] theorem cut_nil (memory : Memory Cell) (count : Nat) : cut memory [] count = memory := by
  simp [cut]

theorem cut_complete (memory : Memory Cell) {writes : List (Nat × Cell)} {count : Nat}
    (whole : writes.length ≤ count) : cut memory writes count = memory.setAll writes := by
  rw [cut, List.take_of_length_le whole]

theorem cut_untouched (memory : Memory Cell) {writes : List (Nat × Cell)} (count : Nat)
    {address : Nat} (untouched : ∀ write ∈ writes, write.1 ≠ address) :
    cut memory writes count address = memory address :=
  Memory.setAll_untouched memory _ fun write member =>
    untouched write (List.mem_of_mem_take member)

theorem cut_append (memory : Memory Cell) (first second : List (Nat × Cell)) (count : Nat) :
    cut memory (first ++ second) count =
      cut (cut memory first count) second (count - first.length) := by
  rw [cut, List.take_append, Memory.setAll_append]
  rfl

theorem cut_parts (memory : Memory Cell) (opening body closing : List (Nat × Cell))
    (count : Nat) :
    (count ≤ opening.length ∧
        cut memory (opening ++ body ++ closing) count = cut memory opening count) ∨
      (opening.length ≤ count ∧
        ((∃ done, cut memory (opening ++ body ++ closing) count =
            cut (memory.setAll opening) body done) ∨
          ∃ done, cut memory (opening ++ body ++ closing) count =
            cut ((memory.setAll opening).setAll body) closing done)) := by
  rw [List.append_assoc, cut_append, cut_append]
  rcases Nat.le_total count opening.length with early | opened
  · refine .inl ⟨early, ?_⟩
    rw [Nat.sub_eq_zero_of_le early, cut_zero, Nat.zero_sub, cut_zero]
  · refine .inr ⟨opened, ?_⟩
    rw [cut_complete memory opened]
    rcases Nat.le_total (count - opening.length) body.length with inside | past
    · refine .inl ⟨count - opening.length, ?_⟩
      rw [Nat.sub_eq_zero_of_le inside, cut_zero]
    · refine .inr ⟨count - opening.length - body.length, ?_⟩
      rw [cut_complete (memory.setAll opening) past]

end ZhuoduControl.Library.Crash
