import Mathlib.Logic.Function.Basic

/-! Timers that fire a set number of ticks after their last start. The clock advances
only while none of them is due, so that none is ever late. -/

set_option autoImplicit false

namespace ZhuoduControl.Library

structure Timers (Name : Type) where
  now : Nat
  initTick : Name → Nat
  deadline : Name → Option Nat

namespace Timers

variable {Name : Type} [DecidableEq Name] (timers : Timers Name) (name : Name)

def start : Timers Name :=
  { timers with
    deadline := Function.update timers.deadline name (some (timers.now + timers.initTick name)) }

def stop : Timers Name :=
  { timers with deadline := Function.update timers.deadline name none }

/-- Replace the time of the next starts; a deadline that is set stays. -/
def setTime (ticks : Nat) : Timers Name :=
  { timers with initTick := Function.update timers.initTick name ticks }

def advance : Timers Name :=
  { timers with now := timers.now + 1 }

omit [DecidableEq Name] in
/-- The timer is to fire now. -/
def Due : Prop := ∃ deadline ∈ timers.deadline name, deadline ≤ timers.now

instance : Decidable (timers.Due name) :=
  inferInstanceAs (Decidable (∃ deadline ∈ timers.deadline name, _))

/-- No timer has missed its deadline. -/
def NotLate : Prop := ∀ name, ∀ deadline ∈ timers.deadline name, timers.now ≤ deadline

@[simp] theorem start_deadline_same :
    (timers.start name).deadline name = some (timers.now + timers.initTick name) :=
  Function.update_self ..

@[simp] theorem stop_deadline_same : (timers.stop name).deadline name = none :=
  Function.update_self ..

variable {timers name}

theorem start_deadline_other {other : Name} (different : other ≠ name) :
    (timers.start name).deadline other = timers.deadline other :=
  Function.update_of_ne different _ _

theorem stop_deadline_other {other : Name} (different : other ≠ name) :
    (timers.stop name).deadline other = timers.deadline other :=
  Function.update_of_ne different _ _

theorem NotLate.start (notLate : timers.NotLate) : (timers.start name).NotLate := by
  intro other deadline member
  by_cases same : other = name
  · rw [same, start_deadline_same] at member
    cases Option.some.inj member
    exact Nat.le_add_right _ _
  · rw [start_deadline_other same] at member
    exact notLate other deadline member

theorem NotLate.stop (notLate : timers.NotLate) : (timers.stop name).NotLate := by
  intro other deadline member
  by_cases same : other = name
  · rw [same, stop_deadline_same] at member
    cases member
  · rw [stop_deadline_other same] at member
    exact notLate other deadline member

omit [DecidableEq Name] in
theorem NotLate.advance (notDue : ∀ name, ¬ timers.Due name) : timers.advance.NotLate := by
  intro name deadline member
  exact Nat.lt_of_not_le fun late => notDue name ⟨deadline, member, late⟩

omit [DecidableEq Name] in
/-- A timer that fires does so at its deadline. -/
theorem NotLate.due {deadline : Nat} (notLate : timers.NotLate) (due : timers.Due name)
    (running : timers.deadline name = some deadline) : deadline = timers.now := by
  obtain ⟨reached, member, passed⟩ := due
  cases Option.some.inj (running.symm.trans member)
  exact Nat.le_antisymm passed (notLate name deadline running)

end Timers

end ZhuoduControl.Library
