/-! Finite runs of a guarded step function, and the rules that lift a fact about
one step to every run. -/

set_option autoImplicit false

namespace ZhuoduControl.Library.Run

variable {State Label : Type} (step : State → Label → Option State)

/-- Take the labels in order; a label that is not enabled stops the run. -/
def run (state : State) : List Label → Option State
  | [] => some state
  | label :: rest => (step state label).bind fun next => run next rest

/-- Every step of the run starting at `state` satisfies `property`. -/
def AllSteps (property : State → Label → State → Prop) (state : State) : List Label → Prop
  | [] => True
  | label :: rest =>
      ∀ next, step state label = some next →
        property state label next ∧ AllSteps property next rest

theorem run_cons (state : State) (label : Label) (rest : List Label) :
    run step state (label :: rest) =
      (step state label).bind fun next => run step next rest := rfl

/-- Every label meets `guard` in the state in which it is taken. -/
def Guarded (guard : State → Label → Prop) (state : State) : List Label → Prop
  | [] => True
  | label :: rest => guard state label ∧ ∀ next, step state label = some next →
      Guarded guard next rest

variable {step}

theorem run_of_step {state next : State} {label : Label} (stepped : step state label = some next)
    (rest : List Label) : run step state (label :: rest) = run step next rest := by
  rw [run_cons, stepped]
  rfl

theorem run_cons_some {state final : State} {label : Label} {rest : List Label}
    (ran : run step state (label :: rest) = some final) :
    ∃ next, step state label = some next ∧ run step next rest = some final := by
  rw [run_cons] at ran
  exact Option.bind_eq_some_iff.mp ran

theorem run_append_some {state final : State} {first second : List Label}
    (ran : run step state (first ++ second) = some final) :
    ∃ middle, run step state first = some middle ∧ run step middle second = some final := by
  induction first generalizing state with
  | nil => exact ⟨state, rfl, ran⟩
  | cons label rest ih =>
      obtain ⟨next, stepped, remaining⟩ := run_cons_some ran
      obtain ⟨middle, began, ended⟩ := ih remaining
      exact ⟨middle, (run_of_step stepped rest).trans began, ended⟩

theorem run_concat_some {state final : State} {labels : List Label} {label : Label}
    (ran : run step state (labels ++ [label]) = some final) :
    ∃ before, run step state labels = some before ∧ step before label = some final := by
  obtain ⟨before, began, last⟩ := run_append_some ran
  obtain ⟨after, stepped, ended⟩ := run_cons_some last
  cases Option.some.inj ended
  exact ⟨before, began, stepped⟩

instance decidableAllSteps (property : State → Label → State → Prop)
    [∀ before label after, Decidable (property before label after)] (state : State) :
    ∀ labels, Decidable (AllSteps step property state labels)
  | [] => .isTrue trivial
  | label :: rest =>
      match stepped : step state label with
      | none => .isTrue fun next reached => by
          rw [stepped] at reached
          cases reached
      | some next =>
          let later := decidableAllSteps property next rest
          decidable_of_iff (property state label next ∧ AllSteps step property next rest)
            ⟨fun both _ reached => by
              cases Option.some.inj (stepped.symm.trans reached)
              exact both, fun all => all next stepped⟩

instance decidableGuarded (guard : State → Label → Prop)
    [∀ state label, Decidable (guard state label)] (state : State) :
    ∀ labels, Decidable (Guarded step guard state labels)
  | [] => .isTrue trivial
  | label :: rest =>
      match stepped : step state label with
      | none =>
          decidable_of_iff (guard state label)
            ⟨fun allowed => ⟨allowed, fun next reached => by
              rw [stepped] at reached
              cases reached⟩, fun guarded => guarded.1⟩
      | some next =>
          let later := decidableGuarded guard next rest
          decidable_of_iff (guard state label ∧ Guarded step guard next rest)
            ⟨fun both => ⟨both.1, fun _ reached => by
              cases Option.some.inj (stepped.symm.trans reached)
              exact both.2⟩, fun guarded => ⟨guarded.1, guarded.2 next stepped⟩⟩

theorem AllSteps.mono {first second : State → Label → State → Prop}
    (implied : ∀ state label next, step state label = some next → first state label next →
      second state label next)
    {start : State} {labels : List Label} (all : AllSteps step first start labels) :
    AllSteps step second start labels := by
  induction labels generalizing start with
  | nil => trivial
  | cons label rest ih =>
      intro next stepped
      obtain ⟨here, later⟩ := all next stepped
      exact ⟨implied start label next stepped here, ih later⟩

theorem allSteps_of_invariant {guard property : State → Label → State → Prop}
    {invariant : State → Prop}
    (preserved : ∀ state label next, invariant state → step state label = some next →
      guard state label next → invariant next)
    (implied : ∀ state label next, invariant state → step state label = some next →
      guard state label next → property state label next)
    {start : State} {labels : List Label} (initial : invariant start)
    (guarded : AllSteps step guard start labels) : AllSteps step property start labels := by
  induction labels generalizing start with
  | nil => trivial
  | cons label rest ih =>
      intro next stepped
      obtain ⟨allowed, later⟩ := guarded next stepped
      exact ⟨implied start label next initial stepped allowed,
        ih (preserved start label next initial stepped allowed) later⟩

/-- A step that keeps an invariant has a property: so have all steps of a run. -/
theorem allSteps_of_step {invariant : State → Prop} {property : State → Label → State → Prop}
    (advances : ∀ state label next, invariant state → step state label = some next →
      invariant next ∧ property state label next)
    {start : State} (labels : List Label) (initial : invariant start) :
    AllSteps step property start labels := by
  induction labels generalizing start with
  | nil => trivial
  | cons label rest ih =>
      intro next stepped
      obtain ⟨held, here⟩ := advances start label next initial stepped
      exact ⟨here, ih held⟩

theorem allSteps_invariant {invariant : State → Prop}
    (preserved : ∀ state label next, invariant state → step state label = some next →
      invariant next)
    {start : State} (labels : List Label) (initial : invariant start) :
    AllSteps step (fun _ _ after => invariant after) start labels :=
  allSteps_of_step (fun state label next held stepped =>
    ⟨preserved state label next held stepped, preserved state label next held stepped⟩) labels initial

theorem AllSteps.last {property : State → Label → State → Prop} {start state next : State}
    {labels : List Label} {label : Label}
    (all : AllSteps step property start (labels ++ [label]))
    (ran : run step start labels = some state) (stepped : step state label = some next) :
    property state label next := by
  induction labels generalizing start with
  | nil =>
      cases Option.some.inj ran
      exact (all next stepped).1
  | cons first rest ih =>
      obtain ⟨middle, began, remaining⟩ := run_cons_some ran
      exact ih (all middle began).2 remaining

theorem invariant_of_run {invariant : State → Prop}
    (preserved : ∀ state label next, invariant state → step state label = some next →
      invariant next)
    {start final : State} {labels : List Label} (initial : invariant start)
    (ran : run step start labels = some final) : invariant final := by
  induction labels generalizing start with
  | nil =>
      cases Option.some.inj ran
      exact initial
  | cons label rest ih =>
      obtain ⟨next, stepped, remaining⟩ := run_cons_some ran
      exact ih (preserved start label next initial stepped) remaining

/-- A guarded run is not stopped, and its invariant holds at the end. -/
theorem run_of_guarded {guard : State → Label → Prop} {invariant : State → Prop}
    (advances : ∀ state label, invariant state → guard state label →
      ∃ next, step state label = some next ∧ invariant next)
    {start : State} {labels : List Label} (initial : invariant start)
    (guarded : Guarded step guard start labels) :
    ∃ final, run step start labels = some final ∧ invariant final := by
  induction labels generalizing start with
  | nil => exact ⟨start, rfl, initial⟩
  | cons label rest ih =>
      obtain ⟨allowed, later⟩ := guarded
      obtain ⟨next, stepped, held⟩ := advances start label initial allowed
      rw [run_of_step stepped]
      exact ih held (later next stepped)

theorem run_of_total {invariant : State → Prop}
    (advances : ∀ state label, invariant state →
      ∃ next, step state label = some next ∧ invariant next)
    {start : State} (initial : invariant start) (labels : List Label) :
    ∃ final, run step start labels = some final ∧ invariant final := by
  induction labels generalizing start with
  | nil => exact ⟨start, rfl, initial⟩
  | cons label rest ih =>
      obtain ⟨next, stepped, held⟩ := advances start label initial
      rw [run_of_step stepped]
      exact ih held

theorem Guarded.append {guard : State → Label → Prop} {start : State} {first second : List Label}
    (guarded : Guarded step guard start (first ++ second)) :
    Guarded step guard start first ∧
      ∀ middle, run step start first = some middle → Guarded step guard middle second := by
  induction first generalizing start with
  | nil =>
      refine ⟨trivial, ?_⟩
      intro middle ran
      cases Option.some.inj ran
      exact guarded
  | cons label rest ih =>
      obtain ⟨allowed, later⟩ := guarded
      refine ⟨⟨allowed, fun next stepped => (ih (later next stepped)).1⟩, ?_⟩
      intro middle ran
      obtain ⟨next, stepped, remaining⟩ := run_cons_some ran
      exact (ih (later next stepped)).2 middle remaining

theorem allSteps_of_guarded {guard : State → Label → Prop} {invariant : State → Prop}
    {property : State → Label → State → Prop}
    (advances : ∀ state label next, invariant state → guard state label →
      step state label = some next → invariant next ∧ property state label next)
    {start : State} {labels : List Label} (initial : invariant start)
    (guarded : Guarded step guard start labels) : AllSteps step property start labels := by
  induction labels generalizing start with
  | nil => trivial
  | cons label rest ih =>
      intro next stepped
      obtain ⟨allowed, later⟩ := guarded
      obtain ⟨held, here⟩ := advances start label next initial allowed stepped
      exact ⟨here, ih held (later next stepped)⟩

theorem AllSteps.and {first second : State → Label → State → Prop} {start : State}
    {labels : List Label} (left : AllSteps step first start labels)
    (right : AllSteps step second start labels) :
    AllSteps step (fun before label after =>
      first before label after ∧ second before label after) start labels := by
  induction labels generalizing start with
  | nil => trivial
  | cons label rest ih =>
      intro next stepped
      obtain ⟨here, later⟩ := left next stepped
      obtain ⟨also, then_on⟩ := right next stepped
      exact ⟨⟨here, also⟩, ih later then_on⟩

/-- The last step of a run that leaves the states of `inside`. -/
structure Departure (step : State → Label → Option State) (inside : State → Prop)
    (start : State) (labels : List Label) (final left : State) (label : Label)
    (entered : State) : Prop where
  split : ∃ before after, labels = before ++ label :: after ∧
    run step start before = some left ∧ run step entered after = some final ∧
    AllSteps step (fun _ _ next => ¬ inside next) entered after
  left_inside : inside left
  stepped : step left label = some entered
  entered_outside : ¬ inside entered

theorem departure_or_outside {inside : State → Prop} {start final : State} {labels : List Label}
    (ran : run step start labels = some final) (outside : ¬ inside final) :
    (¬ inside start ∧ AllSteps step (fun _ _ next => ¬ inside next) start labels) ∨
      ∃ left label entered, Departure step inside start labels final left label entered := by
  induction labels generalizing start with
  | nil =>
      cases Option.some.inj ran
      exact .inl ⟨outside, trivial⟩
  | cons label rest ih =>
      obtain ⟨next, stepped, remaining⟩ := run_cons_some ran
      rcases ih remaining with ⟨nextOutside, stays⟩ | ⟨left, last, entered, departure⟩
      · by_cases here : inside start
        · exact .inr ⟨start, label, next, ⟨[], rest, rfl, rfl, remaining, stays⟩, here, stepped,
            nextOutside⟩
        · refine .inl ⟨here, ?_⟩
          intro other again
          cases Option.some.inj (stepped.symm.trans again)
          exact ⟨nextOutside, stays⟩
      · obtain ⟨⟨before, after, rfl, began, ended, stays⟩, held, departed, off⟩ := departure
        refine .inr ⟨left, last, entered, ⟨label :: before, after, rfl, ?_, ended, stays⟩, held,
          departed, off⟩
        rw [run_of_step stepped]
        exact began

theorem departure_of_run {inside : State → Prop} {start final : State} {labels : List Label}
    (ran : run step start labels = some final) (initial : inside start)
    (outside : ¬ inside final) :
    ∃ left label entered, Departure step inside start labels final left label entered := by
  rcases departure_or_outside ran outside with ⟨off, _⟩ | departure
  · exact absurd initial off
  · exact departure

theorem invariant_of_allSteps {property : State → Label → State → Prop} {invariant : State → Prop}
    (preserved : ∀ state label next, invariant state → step state label = some next →
      property state label next → invariant next)
    {start final : State} {labels : List Label} (initial : invariant start)
    (all : AllSteps step property start labels) (ran : run step start labels = some final) :
    invariant final := by
  induction labels generalizing start with
  | nil =>
      cases Option.some.inj ran
      exact initial
  | cons label rest ih =>
      obtain ⟨next, stepped, remaining⟩ := run_cons_some ran
      obtain ⟨here, later⟩ := all next stepped
      exact ih (preserved start label next initial stepped here) later remaining

/-- Two properties of the steps agree on every run whose labels are allowed and whose
steps, as long as they have the second one, keep an invariant. -/
theorem allSteps_iff_of_labels {invariant : State → Prop} {allowed : Label → Prop}
    {first second : State → Label → State → Prop}
    (agree : ∀ state label next, invariant state → allowed label →
      step state label = some next → (first state label next ↔ second state label next))
    (preserved : ∀ state label next, invariant state → allowed label →
      step state label = some next → second state label next → invariant next)
    {start : State} {labels : List Label} (permitted : ∀ label ∈ labels, allowed label)
    (initial : invariant start) :
    AllSteps step first start labels ↔ AllSteps step second start labels := by
  induction labels generalizing start with
  | nil => exact Iff.rfl
  | cons label rest ih =>
      have here := permitted label (.head _)
      have later := fun other member => permitted other (List.mem_cons_of_mem label member)
      refine forall_congr' fun next => forall_congr' fun stepped => ?_
      have same := agree start label next initial here stepped
      constructor
      · rintro ⟨holds, rest⟩
        have held := same.mp holds
        exact ⟨held, (ih later (preserved start label next initial here stepped held)).mp rest⟩
      · rintro ⟨held, rest⟩
        exact ⟨same.mpr held,
          (ih later (preserved start label next initial here stepped held)).mpr rest⟩

theorem allSteps_iff_of_invariant {invariant : State → Prop}
    {first second : State → Label → State → Prop}
    (preserved : ∀ state label next, invariant state → step state label = some next →
      invariant next)
    (agree : ∀ state label next, invariant state → step state label = some next →
      (first state label next ↔ second state label next))
    {start : State} (labels : List Label) (initial : invariant start) :
    AllSteps step first start labels ↔ AllSteps step second start labels := by
  have always : ∀ label ∈ labels, (fun _ : Label => True) label := fun _ _ => trivial
  refine allSteps_iff_of_labels ?_ ?_ always initial
  · exact fun state label next held _ stepped => agree state label next held stepped
  · exact fun state label next held _ stepped _ => preserved state label next held stepped

section Scripts

variable {Cue : Type} {idle : Label → Prop} {plays : Cue → Label → Prop}

/-- The cues come in order, each of them behind any number of idle labels. -/
inductive Scripted (idle : Label → Prop) (plays : Cue → Label → Prop) :
    List Cue → List Label → Prop
  | done : Scripted idle plays [] []
  | waits {cue cues label labels} (idles : idle label)
      (later : Scripted idle plays (cue :: cues) labels) :
      Scripted idle plays (cue :: cues) (label :: labels)
  | takes {cue cues label labels} (played : plays cue label)
      (later : Scripted idle plays cues labels) :
      Scripted idle plays (cue :: cues) (label :: labels)

/-- What idle steps keep holds when the next cue comes. -/
theorem Scripted.next {invariant : State → Prop}
    (kept : ∀ state label next, invariant state → idle label → step state label = some next →
      invariant next)
    {cue : Cue} {cues : List Cue} {labels : List Label} {start final : State}
    (scripted : Scripted idle plays (cue :: cues) labels) (initial : invariant start)
    (ran : run step start labels = some final) :
    ∃ state label next rest, invariant state ∧ plays cue label ∧ step state label = some next ∧
      Scripted idle plays cues rest ∧ run step next rest = some final := by
  induction labels generalizing start with
  | nil => cases scripted
  | cons label rest ih =>
      obtain ⟨next, stepped, remaining⟩ := run_cons_some ran
      cases scripted with
      | waits idles later => exact ih later (kept start label next initial idles stepped) remaining
      | takes played later => exact ⟨start, label, next, rest, initial, played, stepped, later, remaining⟩

theorem Scripted.ended {labels : List Label} {start final : State}
    (scripted : Scripted idle plays ([] : List Cue) labels)
    (ran : run step start labels = some final) : start = final := by
  cases scripted with
  | done => exact Option.some.inj ran

end Scripts

end ZhuoduControl.Library.Run
