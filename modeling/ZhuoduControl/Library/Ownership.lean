import Mathlib.Data.List.Basic
import Mathlib.Data.List.Perm.Subperm
import Mathlib.Data.List.Range
import Mathlib.Logic.Function.Basic

/-! Items that lie loose in a list or are held, each at one place. -/

set_option autoImplicit false

namespace ZhuoduControl.Library

variable {Holder Item : Type}

structure Ownership (all : Item → Prop) (loose : List Item) (own : Holder → Option Item) :
    Prop where
  apart : loose.Nodup
  whole : ∀ item, all item ↔ item ∈ loose ∨ ∃ holder, own holder = some item
  held : ∀ holder item, own holder = some item → item ∉ loose
  exclusive : ∀ first second item, own first = some item → own second = some item →
    first = second

namespace Ownership

variable [DecidableEq Holder] {all : Item → Prop} {loose rest : List Item}
variable {own : Holder → Option Item} {holder : Holder} {item : Item}

omit [DecidableEq Holder] in
theorem perm (ownership : Ownership all loose own) (moved : loose.Perm rest) :
    Ownership all rest own where
  apart := moved.nodup_iff.mp ownership.apart
  whole := fun item => (ownership.whole item).trans (or_congr_left moved.mem_iff)
  held := fun holder item has member => ownership.held holder item has (moved.mem_iff.mpr member)
  exclusive := ownership.exclusive

theorem acquire (ownership : Ownership all (item :: rest) own) (empty : own holder = none) :
    Ownership all rest (Function.update own holder (some item)) := by
  obtain ⟨apart, whole, held, exclusive⟩ := ownership
  obtain ⟨fresh, restApart⟩ := List.nodup_cons.mp apart
  refine ⟨restApart, fun other => ?_, fun owner other has member => ?_, ?_⟩
  · rw [whole, List.mem_cons]
    constructor
    · rintro ((rfl | member) | ⟨owner, has⟩)
      · exact .inr ⟨holder, Function.update_self ..⟩
      · exact .inl member
      · refine .inr ⟨owner, ?_⟩
        rw [Function.update_of_ne, has]
        rintro rfl
        cases empty.symm.trans has
    · rintro (member | ⟨owner, has⟩)
      · exact .inl (.inr member)
      · by_cases same : owner = holder
        · rw [same, Function.update_self] at has
          cases has
          exact .inl (.inl rfl)
        · rw [Function.update_of_ne same] at has
          exact .inr ⟨owner, has⟩
  · by_cases same : owner = holder
    · rw [same, Function.update_self] at has
      cases has
      exact fresh member
    · rw [Function.update_of_ne same] at has
      exact held owner other has (.tail _ member)
  · have onlyOne : ∀ owner, own owner ≠ some item :=
      fun owner has => held owner item has (.head _)
    intro first second other left right
    by_cases here : first = holder
    · rw [here, Function.update_self] at left
      cases left
      by_cases there : second = holder
      · rw [here, there]
      · rw [Function.update_of_ne there] at right
        exact absurd right (onlyOne second)
    · rw [Function.update_of_ne here] at left
      by_cases there : second = holder
      · rw [there, Function.update_self] at right
        cases right
        exact absurd left (onlyOne first)
      · rw [Function.update_of_ne there] at right
        exact exclusive first second other left right

theorem release (ownership : Ownership all rest own) (has : own holder = some item) :
    Ownership all (item :: rest) (Function.update own holder none) := by
  obtain ⟨apart, whole, held, exclusive⟩ := ownership
  have elsewhere : ∀ owner other, Function.update own holder none owner = some other →
      owner ≠ holder ∧ own owner = some other := by
    intro owner other holds
    by_cases same : owner = holder
    · rw [same, Function.update_self] at holds
      cases holds
    · rw [Function.update_of_ne same] at holds
      exact ⟨same, holds⟩
  refine ⟨List.nodup_cons.mpr ⟨held holder item has, apart⟩, fun other => ?_,
    fun owner other holds member => ?_, fun first second other left right => ?_⟩
  · rw [whole, List.mem_cons]
    constructor
    · rintro (member | ⟨owner, holds⟩)
      · exact .inl (.inr member)
      · by_cases same : owner = holder
        · rw [same, has] at holds
          cases holds
          exact .inl (.inl rfl)
        · refine .inr ⟨owner, ?_⟩
          rw [Function.update_of_ne same]
          exact holds
    · rintro ((rfl | member) | ⟨owner, holds⟩)
      · exact .inr ⟨holder, has⟩
      · exact .inl member
      · exact .inr ⟨owner, (elsewhere owner other holds).2⟩
  · obtain ⟨different, holds⟩ := elsewhere owner other holds
    rcases List.mem_cons.mp member with rfl | inside
    · exact different (exclusive owner holder other holds has)
    · exact held owner other holds inside
  · exact exclusive first second other (elsewhere first other left).2
      (elsewhere second other right).2

omit [DecidableEq Holder] in
/-- What is loose beside a held item is less than all. -/
theorem length_lt {count : Nat} {loose : List Nat} {own : Holder → Option Nat} {item : Nat}
    (ownership : Ownership (· < count) loose own) (has : own holder = some item) :
    loose.length < count := by
  have both : (item :: loose).Nodup :=
    List.nodup_cons.mpr ⟨ownership.held holder item has, ownership.apart⟩
  have within : item :: loose ⊆ List.range count := by
    intro other member
    refine List.mem_range.mpr ((ownership.whole other).mpr ?_)
    rcases List.mem_cons.mp member with rfl | inside
    · exact .inr ⟨holder, has⟩
    · exact .inl inside
  have shorter := (both.subperm within).length_le
  rw [List.length_range] at shorter
  exact shorter

end Ownership

end ZhuoduControl.Library
