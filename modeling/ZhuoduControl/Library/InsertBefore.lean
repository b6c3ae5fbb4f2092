import Mathlib.Data.List.Basic

/-! Insertion into a list before the first item that stops the search, and what it keeps. -/

set_option autoImplicit false

namespace ZhuoduControl.Library

variable {Item : Type}

def insertBefore (stops : Item → Bool) (item : Item) : List Item → List Item
  | [] => [item]
  | other :: rest =>
      if stops other then item :: other :: rest else other :: insertBefore stops item rest

variable {stops : Item → Bool} {item : Item} {items : List Item}

theorem insertBefore_congr {others : Item → Bool} (same : ∀ other ∈ items, stops other = others other) :
    insertBefore stops item items = insertBefore others item items := by
  induction items with
  | nil => rfl
  | cons other rest ih =>
      rw [insertBefore, insertBefore, same other (.head _), ih fun next member => same next (.tail _ member)]

theorem insertBefore_perm : (insertBefore stops item items).Perm (item :: items) := by
  induction items with
  | nil => exact List.Perm.refl _
  | cons other rest ih =>
      rw [insertBefore]
      split
      · exact List.Perm.refl _
      · exact (ih.cons other).trans (List.Perm.swap item other rest)

theorem mem_insertBefore {other : Item} :
    other ∈ insertBefore stops item items ↔ other = item ∨ other ∈ items :=
  insertBefore_perm.mem_iff.trans List.mem_cons

/-- An order is kept when the item precedes all from the first that stops the search on, and
follows those before it. -/
theorem insertBefore_pairwise {precedes : Item → Item → Prop} (ordered : items.Pairwise precedes)
    (first : ∀ other ∈ items, stops other = true → precedes item other)
    (last : ∀ other ∈ items, stops other = false → precedes other item)
    (later : ∀ other ∈ items, ∀ next ∈ items, stops other = true → precedes other next →
      stops next = true) : (insertBefore stops item items).Pairwise precedes := by
  induction items with
  | nil => exact List.pairwise_singleton _ _
  | cons other rest ih =>
      obtain ⟨before, sorted⟩ := List.pairwise_cons.mp ordered
      rw [insertBefore]
      split
      · next stopped =>
        refine List.pairwise_cons.mpr ⟨fun next member => ?_, ordered⟩
        rcases List.mem_cons.mp member with rfl | behind
        · exact first _ (.head _) stopped
        · exact first next member (later other (.head _) next member stopped (before next behind))
      · next passed =>
        refine List.pairwise_cons.mpr ⟨fun next member => ?_, ?_⟩
        · rcases mem_insertBefore.mp member with rfl | behind
          · exact last other (.head _) (Bool.eq_false_iff.mpr passed)
          · exact before next behind
        · exact ih sorted (fun next member => first next (.tail _ member))
            (fun next member => last next (.tail _ member))
            (fun next member after behind => later next (.tail _ member) after (.tail _ behind))

end ZhuoduControl.Library
