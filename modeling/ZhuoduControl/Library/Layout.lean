import Mathlib.Data.List.Pairwise

/-! Placement of the members of a record in declaration order, each at the next
multiple of its alignment, as the C ABI lays out a struct. -/

set_option autoImplicit false

namespace ZhuoduControl.Library

structure Member (Name : Type) where
  name : Name
  size : Nat
  alignment : Nat
deriving Repr

structure Placed (Name : Type) where
  name : Name
  offset : Nat
  size : Nat
deriving Repr

namespace Layout

variable {Name : Type}

def alignUp (position alignment : Nat) : Nat :=
  (position + alignment - 1) / alignment * alignment

def place (position : Nat) : List (Member Name) → List (Placed Name)
  | [] => []
  | member :: rest =>
      let offset := alignUp position member.alignment
      ⟨member.name, offset, member.size⟩ :: place (offset + member.size) rest

/-- The first free position after the last member. -/
def finish (position : Nat) : List (Member Name) → Nat
  | [] => position
  | member :: rest => finish (alignUp position member.alignment + member.size) rest

def offsetOf [DecidableEq Name] (members : List (Member Name)) (name : Name) : Nat :=
  match (place 0 members).find? (fun placed => decide (placed.name = name)) with
  | some placed => placed.offset
  | none => 0

def sizeOf (members : List (Member Name)) : Nat :=
  alignUp (finish 0 members) (members.foldl (fun widest member => max widest member.alignment) 1)

theorem le_alignUp (position : Nat) {alignment : Nat} (positive : 0 < alignment) :
    position ≤ alignUp position alignment := by
  have quotient := Nat.div_add_mod (position + alignment - 1) alignment
  have remainder := Nat.mod_lt (position + alignment - 1) positive
  rw [Nat.mul_comm] at quotient
  unfold alignUp
  omega

theorem place_names (position : Nat) (members : List (Member Name)) :
    (place position members).map Placed.name = members.map Member.name := by
  induction members generalizing position with
  | nil => rfl
  | cons member rest ih => simp [place, ih]

theorem le_offset_of_mem {position : Nat} {members : List (Member Name)}
    (positive : ∀ member ∈ members, 0 < member.alignment) {placed : Placed Name}
    (member : placed ∈ place position members) : position ≤ placed.offset := by
  induction members generalizing position with
  | nil => cases member
  | cons head rest ih =>
      have start := le_alignUp position (positive head (.head _))
      rcases List.mem_cons.mp member with rfl | later
      · exact start
      · have next := ih (fun other otherMember => positive other (.tail _ otherMember)) later
        omega

theorem place_pairwise (position : Nat) (members : List (Member Name))
    (positive : ∀ member ∈ members, 0 < member.alignment) :
    (place position members).Pairwise
      (fun left right => left.offset + left.size ≤ right.offset) := by
  induction members generalizing position with
  | nil => exact .nil
  | cons head rest ih =>
      have later : ∀ member ∈ rest, 0 < member.alignment :=
        fun member present => positive member (.tail _ present)
      refine .cons ?_ (ih _ later)
      intro placed present
      exact le_offset_of_mem later present

variable [DecidableEq Name]

theorem offsetOf_placed {members : List (Member Name)} {name : Name}
    (declared : name ∈ members.map Member.name) :
    ∃ placed ∈ place 0 members, placed.name = name ∧ offsetOf members name = placed.offset := by
  unfold offsetOf
  cases found : (place 0 members).find? (fun placed => decide (placed.name = name)) with
  | none =>
      rw [← place_names 0 members] at declared
      obtain ⟨placed, member, same⟩ := List.mem_map.mp declared
      have absent := List.find?_eq_none.mp found placed member
      exact absurd same (by simpa using absent)
  | some placed =>
      exact ⟨placed, List.mem_of_find?_eq_some found, by simpa using List.find?_some found, rfl⟩

theorem offsetOf_disjoint {members : List (Member Name)}
    (positive : ∀ member ∈ members, 0 < member.alignment) (size : Name → Nat)
    (sized : ∀ placed ∈ place 0 members, placed.size = size placed.name) {left right : Name}
    (leftDeclared : left ∈ members.map Member.name)
    (rightDeclared : right ∈ members.map Member.name) (different : left ≠ right) :
    offsetOf members left + size left ≤ offsetOf members right ∨
      offsetOf members right + size right ≤ offsetOf members left := by
  obtain ⟨leftPlaced, leftMember, rfl, leftOffset⟩ := offsetOf_placed leftDeclared
  obtain ⟨rightPlaced, rightMember, rfl, rightOffset⟩ := offsetOf_placed rightDeclared
  have apart : leftPlaced ≠ rightPlaced := fun same => different (same ▸ rfl)
  let Apart (left right : Placed Name) : Prop :=
    left.offset + left.size ≤ right.offset ∨ right.offset + right.size ≤ left.offset
  have symmetric : Std.Symm Apart := ⟨fun _ _ => Or.symm⟩
  have ordered : (place 0 members).Pairwise Apart :=
    (place_pairwise 0 members positive).imp .inl
  rw [leftOffset, rightOffset, ← sized _ leftMember, ← sized _ rightMember]
  exact ordered.forall leftMember rightMember apart

end Layout

end ZhuoduControl.Library
