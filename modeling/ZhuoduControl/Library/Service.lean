/-! A component that answers one request after the other, and how one such component
stands for another over whole sequences of requests. -/

set_option autoImplicit false

namespace ZhuoduControl.Library.Service

variable {Request Answer State : Type}

/-- Requests served in order, with the answers in the same order. -/
def run (serve : State → Request → State × Answer) (state : State) :
    List Request → State × List Answer
  | [] => (state, [])
  | request :: rest =>
      let served := serve state request
      let later := run serve served.1 rest
      (later.1, served.2 :: later.2)

/-- Each request is allowed in the state in which it comes. -/
def Admitted (serve : State → Request → State × Answer) (allowed : State → Request → Prop)
    (state : State) : List Request → Prop
  | [] => True
  | request :: rest => allowed state request ∧ Admitted serve allowed (serve state request).1 rest

variable {serve : State → Request → State × Answer}

theorem admitted_of_forall {allowed : Request → Prop} {requests : List Request}
    (all : ∀ request ∈ requests, allowed request) (state : State) :
    Admitted serve (fun _ request => allowed request) state requests := by
  induction requests generalizing state with
  | nil => trivial
  | cons request rest ih =>
      have later := fun other member => all other (List.mem_cons_of_mem request member)
      exact ⟨all request (.head _), ih later _⟩

/-- A component that stands for another request by request gives the same answers to every
admitted sequence, and stands for it behind them. -/
theorem run_refines {Abstract : Type} {specified : Abstract → Request → Abstract × Answer}
    {allowed : Abstract → Request → Prop} {represents : State → Abstract → Prop}
    (step : ∀ state abstract request, represents state abstract → allowed abstract request →
      represents (serve state request).1 (specified abstract request).1 ∧
        (serve state request).2 = (specified abstract request).2)
    {requests : List Request} {state : State} {abstract : Abstract}
    (initial : represents state abstract)
    (admitted : Admitted specified allowed abstract requests) :
    represents (run serve state requests).1 (run specified abstract requests).1 ∧
      (run serve state requests).2 = (run specified abstract requests).2 := by
  induction requests generalizing state abstract with
  | nil => exact ⟨initial, rfl⟩
  | cons request rest ih =>
      obtain ⟨here, later⟩ := admitted
      obtain ⟨held, same⟩ := step state abstract request initial here
      obtain ⟨reached, answers⟩ := ih held later
      refine ⟨reached, ?_⟩
      simp only [run]
      rw [same, answers]

end ZhuoduControl.Library.Service
