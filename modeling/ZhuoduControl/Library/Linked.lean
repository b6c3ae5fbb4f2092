import Mathlib.Data.List.Basic
import Mathlib.Logic.Function.Basic

/-! Singly linked lists in a memory of links. -/

set_option autoImplicit false

namespace ZhuoduControl.Library

variable {Node : Type}

/-- From `head` the links lead through `nodes` and end. -/
def Linked (next : Node → Option Node) : Option Node → List Node → Prop
  | head, [] => head = none
  | head, node :: rest => head = some node ∧ Linked next (next node) rest

namespace Linked

variable {next : Node → Option Node} {head : Option Node} {nodes : List Node} {node : Node}

theorem none_iff (linked : Linked next head nodes) : head = none ↔ nodes = [] := by
  cases nodes with
  | nil => exact iff_of_true linked rfl
  | cons first rest => simp [linked.1]

theorem first (linked : Linked next (some node) nodes) :
    ∃ rest, nodes = node :: rest ∧ Linked next (next node) rest := by
  cases nodes with
  | nil => cases linked
  | cons other rest =>
      obtain ⟨same, later⟩ := linked
      cases same
      exact ⟨rest, rfl, later⟩

theorem congr {others : Node → Option Node} (same : ∀ node ∈ nodes, next node = others node)
    (linked : Linked next head nodes) : Linked others head nodes := by
  induction nodes generalizing head with
  | nil => exact linked
  | cons first rest ih =>
      refine ⟨linked.1, ?_⟩
      rw [← same first (.head _)]
      exact ih (fun node member => same node (.tail _ member)) linked.2

variable [DecidableEq Node]

/-- A link of a node elsewhere makes no difference. -/
theorem update (linked : Linked next head nodes) (elsewhere : node ∉ nodes)
    (link : Option Node) : Linked (Function.update next node link) head nodes := by
  refine linked.congr fun other member => ?_
  rw [Function.update_of_ne]
  rintro rfl
  exact elsewhere member

theorem push (linked : Linked next head nodes) (fresh : node ∉ nodes) :
    Linked (Function.update next node head) (some node) (node :: nodes) := by
  refine ⟨rfl, ?_⟩
  rw [Function.update_self]
  exact linked.update fresh head

/-- A node that ends the links is appended by the link of the last node. -/
theorem append {last : Node} (linked : Linked next head nodes) (apart : nodes.Nodup)
    (fresh : node ∉ nodes) (ends : next node = none) (isLast : nodes.getLast? = some last) :
    Linked (Function.update next last (some node)) head (nodes ++ [node]) := by
  induction nodes generalizing head with
  | nil => cases isLast
  | cons first rest ih =>
      obtain ⟨begins, later⟩ := linked
      obtain ⟨outside, others⟩ := List.nodup_cons.mp apart
      refine ⟨begins, ?_⟩
      have different : node ≠ last := by
        rintro rfl
        exact fresh (List.mem_of_getLast? isLast)
      cases rest with
      | nil =>
          have only : first = last := Option.some.inj isLast
          rw [only, Function.update_self]
          refine ⟨rfl, ?_⟩
          rw [Function.update_of_ne different]
          exact ends
      | cons second more =>
          have lastLater : (second :: more).getLast? = some last := isLast
          have inside := List.mem_of_getLast? lastLater
          have before : first ≠ last := by
            rintro rfl
            exact outside inside
          rw [Function.update_of_ne before]
          exact ih later others (fun member => fresh (.tail _ member)) lastLater

end Linked

end ZhuoduControl.Library
