/-! Texts whose parts are separated by one symbol: the part behind the last separator,
and the texts that stand one level below a path. -/

set_option autoImplicit false

namespace ZhuoduControl.Library.DottedPath

variable {Symbol : Type} {dot : Symbol}

/-- The text starts with `path` and has no separator behind it. -/
def StartsLevel (dot : Symbol) (path text : List Symbol) : Prop :=
  path <+: text ∧ dot ∉ text.drop path.length

theorem startsLevel_iff {path text : List Symbol} :
    StartsLevel dot path text ↔ ∃ number, text = path ++ number ∧ dot ∉ number := by
  constructor
  · intro starts
    obtain ⟨⟨number, rfl⟩, free⟩ := starts
    rw [List.drop_left] at free
    exact ⟨number, rfl, free⟩
  · intro split
    obtain ⟨number, rfl, free⟩ := split
    refine ⟨List.prefix_append path number, ?_⟩
    rwa [List.drop_left]

variable [DecidableEq Symbol]

instance (path text : List Symbol) : Decidable (StartsLevel dot path text) :=
  inferInstanceAs (Decidable (_ ∧ _))

/-- What stands behind the last separator. -/
def afterLast (dot : Symbol) : List Symbol → Option (List Symbol)
  | [] => none
  | first :: rest =>
      match afterLast dot rest with
      | some number => some number
      | none => if first = dot then some rest else none

theorem afterLast_eq_none {text : List Symbol} : afterLast dot text = none ↔ dot ∉ text := by
  induction text with
  | nil => simp [afterLast]
  | cons first rest ih =>
      simp only [afterLast, List.mem_cons, not_or]
      cases found : afterLast dot rest with
      | some number =>
          have inside : dot ∈ rest := by
            apply Decidable.byContradiction
            intro outside
            rw [ih.mpr outside] at found
            cases found
          simp [inside]
      | none =>
          have outside : dot ∉ rest := ih.mp found
          by_cases here : first = dot
          · simp [here]
          · simp [here, outside, Ne.symm here]

theorem afterLast_append {number : List Symbol} (free : dot ∉ number) (parent : List Symbol) :
    afterLast dot (parent ++ dot :: number) = some number := by
  induction parent with
  | nil => simp [afterLast, afterLast_eq_none.mpr free]
  | cons first rest ih => simp [afterLast, ih]

/-- The last separator splits a text in one way only. -/
theorem split_unique {parent other number suffix : List Symbol} (free : dot ∉ number)
    (otherFree : dot ∉ suffix) (same : parent ++ dot :: number = other ++ dot :: suffix) :
    parent = other ∧ number = suffix := by
  have numbers : number = suffix := by
    apply Option.some.inj
    rw [← afterLast_append free parent, ← afterLast_append otherFree other, same]
  subst numbers
  exact ⟨List.append_cancel_right same, rfl⟩

end ZhuoduControl.Library.DottedPath
