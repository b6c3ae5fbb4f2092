import ZhuoduControl.Library.Run

/-! Runs of a machine with a stack of which a step adds entries or takes the top one
away: what lies under a level stays until the run comes back to that level. -/

set_option autoImplicit false

namespace ZhuoduControl.Library.StackRun

variable {State Label Entry : Type} (stack : State → List Entry)

/-- The step puts entries on the stack, or takes its top away. -/
def Layered (before after : State) : Prop :=
  stack before <:+ stack after ∨ ∃ top, stack before = top :: stack after

variable {stack}

theorem Layered.keeps {before after : State} {base : List Entry}
    (layered : Layered stack before after) (below : base <:+ stack before)
    (high : base.length ≤ (stack after).length) : base <:+ stack after := by
  rcases layered with grows | ⟨top, popped⟩
  · exact below.trans grows
  · rw [popped] at below
    rcases List.suffix_cons_iff.mp below with whole | inner
    · rw [whole] at high
      exact absurd high (Nat.not_succ_le_self _)
    · exact inner

theorem keeps_of_run {step : State → Label → Option State} {base : List Entry}
    {start final : State} {labels : List Label}
    (layered : Run.AllSteps step (fun before _ after =>
      Layered stack before after ∧ base.length ≤ (stack after).length) start labels)
    (ran : Run.run step start labels = some final) (below : base <:+ stack start) :
    base <:+ stack final := by
  induction labels generalizing start with
  | nil =>
      cases Option.some.inj ran
      exact below
  | cons label rest ih =>
      obtain ⟨next, stepped, remaining⟩ := Run.run_cons_some ran
      obtain ⟨⟨here, high⟩, later⟩ := layered next stepped
      exact ih later remaining (here.keeps below high)

/-- The step back to a level takes the entry away that was put there when it was left. -/
theorem Layered.returns {before after : State} {top : Entry} {rest : List Entry}
    (layered : Layered stack before after) (below : top :: rest <:+ stack before)
    (height : (stack after).length = rest.length) :
    stack before = top :: stack after ∧ stack after = rest := by
  rcases layered with grows | ⟨popped, taken⟩
  · have longer := (below.trans grows).length_le
    rw [height] at longer
    exact absurd longer (Nat.not_succ_le_self _)
  · have lengths : (top :: rest).length = (stack before).length := by
      rw [taken, List.length_cons, List.length_cons, height]
    have whole := below.eq_of_length lengths
    rw [taken] at whole
    cases whole
    exact ⟨taken, rfl⟩

end ZhuoduControl.Library.StackRun
