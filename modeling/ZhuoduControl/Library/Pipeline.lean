/-! Items in order, each of which needs something met by an item that is already
available or stands ahead of it. -/

set_option autoImplicit false

namespace ZhuoduControl.Library.Pipeline

variable {Item Need : Type} (requires meets : Item → Need → Prop)

def Justified (available : Item → Prop) (item : Item) : Prop :=
  ∀ need, requires item need → ∃ other, available other ∧ meets other need

/-- Every item is justified by what is available and what stands ahead of it. -/
def Ordered (available : Item → Prop) : List Item → Prop
  | [] => True
  | item :: rest =>
      Justified requires meets available item ∧
        Ordered (fun other => available other ∨ other = item) rest

variable {requires meets}

theorem Justified.weaken {before after : Item → Prop} {item : Item}
    (kept : ∀ other need, before other → meets other need → after other)
    (justified : Justified requires meets before item) :
    Justified requires meets after item := by
  intro need required
  obtain ⟨other, available, met⟩ := justified need required
  exact ⟨other, kept other need available met, met⟩

theorem Ordered.weaken {before after : Item → Prop} {items : List Item}
    (kept : ∀ other need, before other → meets other need → after other)
    (ordered : Ordered requires meets before items) : Ordered requires meets after items := by
  induction items generalizing before after with
  | nil => trivial
  | cons item rest ih =>
      obtain ⟨justified, later⟩ := ordered
      refine ⟨justified.weaken kept, ih ?_ later⟩
      rintro other need (available | rfl) met
      · exact .inl (kept other need available met)
      · exact .inr rfl

theorem Ordered.head {available : Item → Prop} {item : Item} {rest : List Item}
    (ordered : Ordered requires meets available (item :: rest)) :
    Justified requires meets available item :=
  ordered.1

/-- The first item leaves: it must have become available if anyone may need it. -/
theorem Ordered.tail {before after : Item → Prop} {item : Item} {rest : List Item}
    (ordered : Ordered requires meets before (item :: rest))
    (kept : ∀ other need, before other → meets other need → after other)
    (settled : ∀ need, meets item need → after item) : Ordered requires meets after rest := by
  refine ordered.2.weaken ?_
  rintro other need (available | rfl) met
  · exact kept other need available met
  · exact settled need met

theorem Ordered.snoc {available : Item → Prop} {items : List Item} {item : Item}
    (ordered : Ordered requires meets available items)
    (justified : Justified requires meets (fun other => available other ∨ other ∈ items) item) :
    Ordered requires meets available (items ++ [item]) := by
  induction items generalizing available with
  | nil =>
      refine ⟨justified.weaken ?_, trivial⟩
      rintro other need (present | absent) met
      · exact present
      · cases absent
  | cons head rest ih =>
      refine ⟨ordered.1, ih ordered.2 (justified.weaken ?_)⟩
      rintro other need (present | member) met
      · exact .inl (.inl present)
      · rcases List.mem_cons.mp member with rfl | later
        · exact .inl (.inr rfl)
        · exact .inr later

end ZhuoduControl.Library.Pipeline
