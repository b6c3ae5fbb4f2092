import ZhuoduControl.Menu.Cursor

/-! In every run the cursor stands inside the list that is shown, and the screen shows
the rows of that list around it. -/

set_option autoImplicit false

namespace ZhuoduControl.Menu.Frame

open ZhuoduControl.Library

variable {Func : Type}

/-- The cursor of a list and the rows that are drawn around it. -/
structure CursorValid (table : Table Func) (frame : Frame Func) : Prop where
  inside : frame.currIndex < frame.nSubNode
  curr : frame.psMenuCurr = frame.currNodeList frame.currIndex
  line_le : frame.currLine ≤ frame.currIndex
  onScreen : frame.currLine < min lineMax frame.nSubNode
  list : ∃ parent start, Siblings table parent start frame.nSubNode ∧
    (∀ k < frame.nSubNode, frame.currNodeList k = some (start + k)) ∧
    frame.dispNode = (List.range lineMax).map fun line =>
      { title := if line < min lineMax frame.nSubNode then
          some (start + (frame.currIndex - frame.currLine + line) : Nat) else none
        reverse := line = frame.currLine }
  within : frame.currIndex - frame.currLine + min lineMax frame.nSubNode ≤ frame.nSubNode
  highlighted : ∀ line ∈ frame.dispNode, line.reverse = true →
    line.title = frame.psMenuCurr.map Int.ofNat

theorem Lists.dispNode {table : Table Func} {frame : Frame Func} {parent : List Char}
    {start count : Nat} (lists : Lists table frame parent start count) :
    frame.dispNode = (List.range lineMax).map fun line =>
      { title := if line < min lineMax frame.nSubNode then
          some (start + (frame.currIndex - frame.currLine + line) : Nat) else none
        reverse := line = frame.currLine } := by
  have top := lists.window.top
  apply List.map_congr_left
  intro line onScreen
  have shown : line < min lineMax frame.nSubNode ↔ line < frame.nSubNode := by
    have upper := List.mem_range.mp onScreen
    omega
  simp only [shown, lists.curr, Option.map_some, ScreenLine.mk.injEq, and_true]
  split
  · have row : (start + frame.currIndex : Nat) + ((line : Int) - frame.currLine) =
        (start + (frame.currIndex - frame.currLine + line) : Nat) := by omega
    rw [row]
  · rfl

theorem Lists.cursorValid {table : Table Func} {frame : Frame Func} {parent : List Char}
    {start count : Nat} (lists : Lists table frame parent start count) :
    CursorValid table frame := by
  have counted : frame.nSubNode = count := lists.shows.1
  obtain ⟨inside, top, onScreen, full⟩ := lists.window
  constructor
  case inside => rwa [counted]
  case curr => rw [lists.curr, lists.shows.2 frame.currIndex inside]
  case line_le => exact top
  case onScreen => rwa [counted]
  case list =>
    refine ⟨parent, start, ?_, ?_, lists.dispNode⟩
    · rw [counted]
      exact lists.siblings
    · rw [counted]
      exact lists.shows.2
  case within => rwa [counted]
  case highlighted =>
    intro line drawn reversed
    obtain ⟨k, _, rfl⟩ := List.mem_map.mp drawn
    have here : k = frame.currLine := of_decide_eq_true reversed
    have shown : frame.currLine < frame.nSubNode := by omega
    simp only [here, if_pos shown, Int.sub_self, Int.add_zero]
    rfl

theorem menuMain_cursorValid (table : Table Func) (root : Nat)
    (wellFormed : WellFormed table root) (passes : List (Pass Func))
    (opens : Run.Guarded (menuMain table) (PageCalls table (OpensFromRoot table root))
      (menuVarInit table) passes) :
    ∃ frame, Run.run (menuMain table) (menuVarInit table) passes = some frame ∧
      (frame.menuStatus = .node → CursorValid table frame) := by
  obtain ⟨frame, ran, positioned⟩ := Run.run_of_guarded (Positioned.pass wellFormed)
    (menuVarInit_positioned wellFormed) opens
  refine ⟨frame, ran, ?_⟩
  intro listing
  rcases positioned.place with page | ⟨parent, start, count, lists⟩
  · cases listing.symm.trans page.1
  · exact lists.cursorValid

theorem menuMain_cursorValid_firstList :
    ∃ frame, Run.run (menuMain sMenu) (menuVarInit sMenu)
        [⟨.downOk, [.jump2menu none], 0⟩, ⟨.downUp, [], 0⟩] = some frame ∧
      (frame.menuStatus = .node → CursorValid sMenu frame) := by
  apply menuMain_cursorValid sMenu 0 sMenu_wellFormed
  refine ⟨fun _ => ⟨?_, fun _ _ => trivial⟩, fun _ _ => ⟨fun _ => trivial, fun _ _ => trivial⟩⟩
  intro _ text named
  cases named
  exact ⟨1, by decide, _, ['0'], rfl, rfl, by decide⟩

/-- A page function of the root that calls `leaf_exit` leaves an empty list behind. -/
theorem cursor_invalid_after_leafExit :
    ¬ ∀ (table : Table PageFunc) (root : Nat), WellFormed table root →
      ∀ passes frame, Run.run (menuMain table) (menuVarInit table) passes = some frame →
        frame.menuStatus = .node → CursorValid table frame := by
  intro always
  have valid := always sMenu 0 sMenu_wellFormed [⟨.none, [.leafExit], 0⟩] _ rfl rfl
  exact Nat.lt_irrefl 0 valid.inside

end ZhuoduControl.Menu.Frame
