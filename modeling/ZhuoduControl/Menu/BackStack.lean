import ZhuoduControl.Library.StackRun
import ZhuoduControl.Menu.CursorWindow

/-! `menu_back` undoes the descent into a list: the stacks hold the chain of nodes above
the list that is shown, with the lines they were left on. -/

set_option autoImplicit false

namespace ZhuoduControl.Menu.Frame

open ZhuoduControl.Library

variable {Func : Type}

/-- The nodes from the root down to the node whose children `parent` names; a path
without a dot is opened from the root. -/
inductive Chain (table : Table Func) (root : Nat) : List Char → List (Option Nat) → Prop
  | root {parent} (dotless : '.' ∉ parent) : Chain table root parent [some root]
  | child {parent nodes position row number} (above : Chain table root parent nodes)
      (found : table position = some row) (child : IsChild parent row number) :
      Chain table root row.pIndex.chars (some position :: nodes)

/-- The root opens the children of a path without a dot, another node only its own; a path
without children opens no list there. -/
def StepsDown (table : Table Func) (root : Nat) (frame : Frame Func) : Call Func → Prop
  | .leafExit => frame.psMenuCurr ≠ some root
  | .jump2menu target => ∀ text, target.or (indexOf table frame.psMenuCurr) = some text →
      if frame.psMenuCurr = some root then '.' ∉ text.chars ∧ HasChild table text.chars
      else HasChild table text.chars → indexOf table frame.psMenuCurr = some text
  | .jump2func _ => True

/-- The page of the root with empty stacks, or a list with the chain of nodes above it. -/
structure Nested (table : Table Func) (root : Nat) (frame : Frame Func) : Prop where
  stacked : Stacked table root frame
  place : (OnRootPage root frame ∧ frame.indexPtrStack = []) ∨
    ∃ parent start count, Lists table frame parent start count ∧
      Chain table root parent frame.indexPtrStack

section Chains

variable {table : Table Func} {root : Nat}

theorem IsChild.count {parent number : List Char} {row : MenuTree Func}
    (child : IsChild parent row number) : row.pIndex.chars.count '.' = parent.count '.' + 1 := by
  rw [child.1, List.count_append, List.count_cons_self, List.count_eq_zero_of_not_mem child.2]

theorem Chain.length {parent : List Char} {nodes : List (Option Nat)}
    (chain : Chain table root parent nodes) : nodes.length = parent.count '.' + 1 := by
  induction chain with
  | root dotless => rw [List.count_eq_zero_of_not_mem dotless, List.length_singleton]
  | child above found child ih => rw [List.length_cons, ih, child.count]

theorem Chain.of_dotless {parent : List Char} {nodes : List (Option Nat)}
    (chain : Chain table root parent nodes) (dotless : '.' ∉ parent) : nodes = [some root] := by
  cases chain with
  | root _ => rfl
  | child _ _ child => exact absurd child.dotted dotless

theorem Nested.positioned {frame : Frame Func} (nested : Nested table root frame) :
    Positioned table root frame where
  stacked := nested.stacked
  place := by
    rcases nested.place with ⟨page, _⟩ | ⟨parent, start, count, lists, _⟩
    · exact .inl page
    · exact .inr ⟨parent, start, count, lists⟩

/-- A list that can be opened leaves room on the stacks, and its chain is one longer. -/
theorem Nested.room (wellFormed : WellFormed table root) {frame : Frame Func}
    {target : Option IndexText} {text : IndexText} (nested : Nested table root frame)
    (down : StepsDown table root frame (.jump2menu target))
    (named : target.or (indexOf table frame.psMenuCurr) = some text)
    (hasChild : HasChild table text.chars) :
    frame.indexPtrStack.length < stageMax ∧
      Chain table root text.chars (frame.psMenuCurr :: frame.indexPtrStack) := by
  have opened := down text named
  rcases nested.place with ⟨page, empty⟩ | ⟨parent, start, count, lists, chain⟩
  · rw [if_pos page.2] at opened
    rw [empty, page.2]
    exact ⟨by decide, .root opened.1⟩
  · rw [if_neg (lists.notRoot wellFormed)] at opened
    replace opened := opened hasChild
    obtain ⟨row, number, found, child⟩ := lists.row
    rw [indexOf, lists.curr, Option.bind_some, found, Option.map_some] at opened
    cases opened
    obtain ⟨position, fits, below, suffix, belowFound, belowChild⟩ := hasChild
    refine ⟨?_, ?_⟩
    · have shallow := wellFormed.shallow position fits below belowFound
      rw [belowChild.count, child.count] at shallow
      rw [chain.length]
      exact shallow
    · rw [lists.curr]
      exact .child chain found child

end Chains

section Steps

variable {table : Table Func} {root : Nat}

theorem SamePlace.saved {before after : Frame Func} (same : SamePlace before after) :
    after.saved = before.saved := by
  rw [Frame.saved, Frame.saved, same.indexPtrStack, same.lineStack]

theorem Nested.samePlace {before after : Frame Func} (nested : Nested table root before)
    (same : SamePlace before after)
    (page : OnRootPage root before → after.menuStatus = .leaf) : Nested table root after where
  stacked := nested.stacked.samePlace same.indexPtrStack same.lineStack
  place := by
    rw [same.indexPtrStack]
    rcases nested.place with ⟨onPage, empty⟩ | ⟨parent, start, count, lists, chain⟩
    · exact .inl ⟨⟨page onPage, same.psMenuCurr.trans onPage.2⟩, empty⟩
    · exact .inr ⟨parent, start, count, lists.samePlace same, chain⟩

theorem Nested.enters (wellFormed : WellFormed table root) {before after : Frame Func}
    {target : Option IndexText} {text : IndexText} (nested : Nested table root before)
    (down : StepsDown table root before (.jump2menu target))
    (named : target.or (indexOf table before.psMenuCurr) = some text)
    (hasChild : HasChild table text.chars) (enters : Enters table text.chars before after) :
    Nested table root after ∧
      after.saved = (before.psMenuCurr, before.currLine) :: before.saved := by
  obtain ⟨room, chain⟩ := nested.room wellFormed down named hasChild
  obtain ⟨start, count, lists⟩ := enters.lists
  have lineRoom : before.lineStack.length < stageMax := by rwa [← nested.stacked.even]
  have nodes := enters.indexPtrStack
  have lines := enters.lineStack
  rw [push, if_pos room] at nodes
  rw [push, if_pos lineRoom] at lines
  refine ⟨⟨nested.stacked.enters nested.positioned.here enters, .inr ?_⟩, ?_⟩
  · rw [nodes]
    exact ⟨text.chars, start, count, lists, chain⟩
  · rw [saved, nodes, lines, List.zip_cons_cons]
    rfl

/-- A call keeps the place or goes down by one list. -/
theorem Nested.call (wellFormed : WellFormed table root) (uninit : Nat) (frame : Frame Func)
    (call : Call Func) (nested : Nested table root frame)
    (down : StepsDown table root frame call) :
    ∃ next, leafCall table uninit frame call = some next ∧ Nested table root next ∧
      (SamePlace frame next ∨
        next.saved = (frame.psMenuCurr, frame.currLine) :: frame.saved) := by
  cases call with
  | leafExit =>
      have same := leafExit_samePlace frame
      exact ⟨frame.leafExit, rfl, nested.samePlace same fun page => absurd page.2 down, .inl same⟩
  | jump2func pFunc =>
      have same := jump2func_samePlace pFunc frame
      refine ⟨frame.jump2func pFunc, rfl, nested.samePlace same ?_, .inl same⟩
      intro page
      cases pFunc with
      | none => exact page.1
      | some func => exact page.1
  | jump2menu target =>
      obtain ⟨text, named⟩ : ∃ text, target.or (indexOf table frame.psMenuCurr) = some text := by
        cases target with
        | none => exact nested.positioned.named wellFormed
        | some text => exact ⟨text, rfl⟩
      obtain ⟨next, jumped, _, _, ⟨childless, same⟩ | ⟨hasChild, enters⟩⟩ :=
        jump2menu_cases wellFormed uninit named
      · refine ⟨next, jumped, nested.samePlace same ?_, .inl same⟩
        intro page
        have opened := down text named
        rw [if_pos page.2] at opened
        exact absurd opened.2 childless
      · obtain ⟨entered, pushed⟩ := nested.enters wellFormed down named hasChild enters
        exact ⟨next, jumped, entered, .inr pushed⟩

/-- The chain above a list ends in the chain above the list its node stands in. -/
theorem Chain.under {parent other : List Char} {node : Option Nat} {nodes : List (Option Nat)}
    {line start count index : Nat}
    (chain : Chain table root parent (node :: nodes)) (notRoot : node ≠ some root)
    (inList : InList table node line other start count index) :
    Chain table root other nodes ∧
      ∃ (row : MenuTree Func) (number : List Char), IsChild other row number ∧
        row.pIndex.chars = parent := by
  cases chain with
  | root _ => exact absurd rfl notRoot
  | child above found child =>
      obtain ⟨row, number, listed, otherChild, _⟩ := inList.row
      rw [Option.bind_some, found] at listed
      cases listed
      obtain ⟨rfl, _⟩ := DottedPath.split_unique child.2 otherChild.2
        (child.1.symm.trans otherChild.1)
      exact ⟨above, _, _, otherChild, rfl⟩

theorem Chain.under_root (wellFormed : WellFormed table root) {parent : List Char}
    {nodes : List (Option Nat)} (chain : Chain table root parent (some root :: nodes)) :
    nodes = [] := by
  generalize top : some root = node at chain
  cases chain with
  | root _ => rfl
  | child above found child =>
      cases top
      obtain ⟨rootRow, rootFound, isRoot⟩ := wellFormed.root_row
      cases found.symm.trans rootFound
      have dot := child.dotted
      rw [isRoot] at dot
      exact absurd dot (by decide)

/-- The stack has grown on top of the place that was left. -/
def Deeper (left frame : Frame Func) : Prop :=
  (left.psMenuCurr, left.currLine) :: left.saved <:+ frame.saved

/-- What a pass does to the stacks. -/
inductive PassMove (table : Table Func) (root : Nat) (before after : Frame Func) : Prop where
  | level (same : after.saved = before.saved)
  | deeper (below : Deeper before after)
  | back (node : Option Nat) (line : Nat) (taken : before.saved = (node, line) :: after.saved)
      (resumed : node = some root ∨ Resumes table node line after)

theorem PassMove.layered {before after : Frame Func} (move : PassMove table root before after) :
    StackRun.Layered saved before after := by
  cases move with
  | level same =>
      rw [StackRun.Layered, same]
      exact .inl (List.suffix_refl _)
  | deeper below => exact .inl ((List.suffix_cons _ _).trans below)
  | back node line taken _ => exact .inr ⟨(node, line), taken⟩

theorem saved_of_stacks {frame next : Frame Func} {node : Option Nat} {line : Nat}
    (nodes : frame.indexPtrStack = node :: next.indexPtrStack)
    (lines : frame.lineStack = line :: next.lineStack) :
    frame.saved = (node, line) :: next.saved := by
  rw [saved, nodes, lines, List.zip_cons_cons]
  rfl

/-- What a key does to the stacks while a list is shown. -/
theorem Outcome.nested (wellFormed : WellFormed table root) {before after : Frame Func}
    {parent : List Char} {start count : Nat} (outcome : Outcome table root before after)
    (stacked : Stacked table root before) (lists : Lists table before parent start count)
    (chain : Chain table root parent before.indexPtrStack) :
    Nested table root after ∧ PassMove table root before after := by
  have nested : Nested table root before := ⟨stacked, .inr ⟨parent, start, count, lists, chain⟩⟩
  have notRoot := lists.notRoot wellFormed
  cases outcome with
  | stays same =>
      exact ⟨nested.samePlace same fun page => absurd page.2 notRoot, .level same.saved⟩
  | moves kept nodes lines =>
      refine ⟨⟨stacked.samePlace nodes lines, .inr ⟨parent, start, count, kept _ _ _ lists, ?_⟩⟩,
        .level ?_⟩
      · rwa [nodes]
      · rw [saved, saved, nodes, lines]
  | enters text named hasChild enters =>
      have down : StepsDown table root before (.jump2menu none) := by
        intro other otherNamed
        rw [if_neg notRoot]
        exact fun _ => otherNamed
      obtain ⟨entered, pushed⟩ := nested.enters wellFormed down named hasChild enters
      exact ⟨entered, .deeper ⟨[], pushed.symm⟩⟩
  | resumes node line nodes lines resumed nodeNotRoot =>
      refine ⟨?_, .back node line (saved_of_stacks nodes lines) (.inr resumed)⟩
      obtain ⟨atRoot | ⟨other, first, number, index, inList⟩, below⟩ := stacked.below nodes lines
      · exact absurd atRoot nodeNotRoot
      · rw [nodes] at chain
        exact ⟨below, .inr ⟨other, first, number,
          (resumed.lists other first number index inList).2,
            (chain.under nodeNotRoot inList).1⟩⟩
  | leaves line nodes lines page _ =>
      refine ⟨?_, .back (some root) line (saved_of_stacks nodes lines) (.inl rfl)⟩
      rw [nodes] at chain
      exact ⟨(stacked.below nodes lines).2, .inl ⟨page, chain.under_root wellFormed⟩⟩

/-- The calls of a page keep its place or go down from it. -/
theorem Nested.calls (wellFormed : WellFormed table root) (uninit : Nat) {frame : Frame Func}
    {calls : List (Call Func)} (nested : Nested table root frame)
    (down : Run.Guarded (leafCall table uninit) (StepsDown table root) frame calls) :
    ∃ next, Run.run (leafCall table uninit) frame calls = some next ∧ Nested table root next ∧
      (SamePlace frame next ∨ Deeper frame next) := by
  refine Run.run_of_guarded ?_ ⟨nested, .inl (SamePlace.refl frame)⟩ down
  intro middle call held allowed
  obtain ⟨next, called, nextNested, moved⟩ := held.1.call wellFormed uninit middle call allowed
  refine ⟨next, called, nextNested, ?_⟩
  rcases held.2 with same | deeper
  · rcases moved with still | pushed
    · exact .inl (same.trans still)
    · rw [same.psMenuCurr, same.currLine, same.saved] at pushed
      exact .inr ⟨[], pushed.symm⟩
  · rcases moved with still | pushed
    · refine .inr ?_
      rwa [Deeper, still.saved]
    · refine .inr (deeper.trans ?_)
      rw [pushed]
      exact List.suffix_cons _ _

/-- A pass of the menu thread, as seen by the stacks. -/
theorem Nested.pass (wellFormed : WellFormed table root) (frame : Frame Func)
    (pass : Pass Func) (nested : Nested table root frame)
    (calls : PageCalls table (StepsDown table root) frame pass) :
    ∃ next, menuMain table frame pass = some next ∧ Nested table root next ∧
      PassMove table root frame next := by
  rw [menuMain]
  cases status : frame.menuStatus with
  | leaf =>
      obtain ⟨next, ran, nextNested, moved⟩ := nested.calls wellFormed pass.uninit (calls status)
      rcases moved with same | deeper
      · exact ⟨next, ran, nextNested, .level same.saved⟩
      · exact ⟨next, ran, nextNested, .deeper deeper⟩
  | node =>
      rcases nested.place with ⟨page, _⟩ | ⟨parent, start, count, lists, chain⟩
      · cases status.symm.trans page.1
      · obtain ⟨next, stepped, outcome⟩ :=
          nodeProc_outcome wellFormed pass.uninit pass.key nested.stacked lists
        exact ⟨next, stepped, outcome.nested wellFormed nested.stacked lists chain⟩

theorem Nested.passed (wellFormed : WellFormed table root) (frame : Frame Func)
    (pass : Pass Func) (nested : Nested table root frame)
    (calls : PageCalls table (StepsDown table root) frame pass) :
    ∃ next, menuMain table frame pass = some next ∧ Nested table root next := by
  obtain ⟨next, stepped, nextNested, _⟩ := nested.pass wellFormed frame pass calls
  exact ⟨next, stepped, nextNested⟩

theorem Nested.step (wellFormed : WellFormed table root) {frame next : Frame Func}
    {pass : Pass Func} (nested : Nested table root frame)
    (calls : PageCalls table (StepsDown table root) frame pass)
    (stepped : menuMain table frame pass = some next) :
    Nested table root next ∧ PassMove table root frame next := by
  obtain ⟨other, again, otherNested, move⟩ := nested.pass wellFormed frame pass calls
  cases Option.some.inj (again.symm.trans stepped)
  exact ⟨otherNested, move⟩

end Steps

/-- The key `down` goes down from `left`, and the passes stay below its level until the
pass `back` returns to it. -/
structure Excursion (table : Table Func) (left : Frame Func) (down : Pass Func)
    (passes : List (Pass Func)) (back : Pass Func) (returned : Frame Func) : Prop where
  below : ∃ first last, menuMain table left down = some first ∧
    left.indexPtrStack.length < first.indexPtrStack.length ∧
    Run.AllSteps (menuMain table) (fun _ _ after =>
      left.indexPtrStack.length < after.indexPtrStack.length) first passes ∧
    Run.run (menuMain table) first passes = some last ∧
    menuMain table last back = some returned
  level : returned.indexPtrStack.length = left.indexPtrStack.length

/-- The cursor and the list are those of `left`. -/
structure Restored (left returned : Frame Func) : Prop where
  currIndex : returned.currIndex = left.currIndex
  currLine : returned.currLine = left.currLine
  psMenuCurr : returned.psMenuCurr = left.psMenuCurr
  nSubNode : returned.nSubNode = left.nSubNode
  currNodeList : ∀ k < left.nSubNode, returned.currNodeList k = left.currNodeList k

section Excursions

variable {table : Table Func} {root : Nat}

theorem Nested.height {frame : Frame Func} (nested : Nested table root frame) :
    frame.saved.length = frame.indexPtrStack.length := by
  rw [saved, List.length_zip, nested.stacked.even, Nat.min_self]

theorem Nested.descends (wellFormed : WellFormed table root) {left first : Frame Func}
    {down : Pass Func} (nested : Nested table root left)
    (calls : PageCalls table (StepsDown table root) left down)
    (stepped : menuMain table left down = some first)
    (lower : left.indexPtrStack.length < first.indexPtrStack.length) : Deeper left first := by
  obtain ⟨firstNested, move⟩ := nested.step wellFormed calls stepped
  rw [← nested.height, ← firstNested.height] at lower
  cases move with
  | level same =>
      rw [same] at lower
      exact absurd lower (Nat.lt_irrefl _)
  | deeper below => exact below
  | back node line taken _ =>
      rw [taken, List.length_cons] at lower
      exact absurd lower (Nat.not_lt_of_lt (Nat.lt_succ_self _))

/-- The pass that returns to the level of `left` restores it. -/
theorem Deeper.returns (wellFormed : WellFormed table root) {left last returned : Frame Func}
    {back : Pass Func} (deeper : Deeper left last) (nested : Nested table root left)
    (notRoot : left.psMenuCurr ≠ some root) (lastNested : Nested table root last)
    (calls : PageCalls table (StepsDown table root) last back)
    (stepped : menuMain table last back = some returned)
    (level : returned.indexPtrStack.length = left.indexPtrStack.length) :
    Restored left returned := by
  obtain ⟨nextNested, move⟩ := lastNested.step wellFormed calls stepped
  have heights : returned.saved.length = left.saved.length := by
    rw [nextNested.height, nested.height, level]
  obtain ⟨popped, _⟩ := move.layered.returns deeper heights
  cases move with
  | level same =>
      rw [← same] at popped
      exact absurd popped (List.ne_cons_self)
  | deeper below =>
      have longer := below.length_le
      rw [popped, List.length_cons, List.length_cons] at longer
      omega
  | back node line taken resumed =>
      cases popped.symm.trans taken
      rcases resumed with atRoot | resumed
      · exact absurd atRoot notRoot
      · obtain ⟨page, _⟩ | ⟨parent, start, count, lists, _⟩ := nested.place
        · exact absurd page.2 notRoot
        · obtain ⟨index, restored⟩ := resumed.lists parent start count left.currIndex lists.inList
          refine ⟨index, resumed.currLine, resumed.curr, ?_, ?_⟩
          · rw [restored.shows.1, lists.shows.1]
          · intro k below
            rw [lists.shows.1] at below
            rw [restored.shows.2 k below, lists.shows.2 k below]

theorem Nested.excursion (wellFormed : WellFormed table root) {left returned : Frame Func}
    {down back : Pass Func} {passes : List (Pass Func)} (nested : Nested table root left)
    (notRoot : left.psMenuCurr ≠ some root)
    (calls : Run.Guarded (menuMain table) (PageCalls table (StepsDown table root)) left
      (down :: (passes ++ [back])))
    (excursion : Excursion table left down passes back returned) : Restored left returned := by
  obtain ⟨⟨first, last, descended, lower, stayed, ran, returnedBack⟩, level⟩ := excursion
  obtain ⟨downCalls, later⟩ := calls
  obtain ⟨passCalls, backCalls⟩ := (later first descended).append
  have deeper := nested.descends wellFormed downCalls descended lower
  obtain ⟨firstNested, _⟩ := nested.step wellFormed downCalls descended
  have steps : Run.AllSteps (menuMain table) (fun before _ after =>
      StackRun.Layered saved before after ∧ after.saved.length = after.indexPtrStack.length)
      first passes := by
    refine Run.allSteps_of_guarded ?_ firstNested passCalls
    intro frame pass next held allowed stepped
    obtain ⟨nextNested, move⟩ := held.step wellFormed allowed stepped
    exact ⟨nextNested, move.layered, nextNested.height⟩
  have layered : Run.AllSteps (menuMain table) (fun before _ after =>
      StackRun.Layered saved before after ∧
        ((left.psMenuCurr, left.currLine) :: left.saved).length ≤ after.saved.length)
      first passes := by
    refine (steps.and stayed).mono ?_
    intro frame pass next _ held
    obtain ⟨⟨layered, height⟩, below⟩ := held
    rw [List.length_cons, nested.height, height]
    exact ⟨layered, below⟩
  obtain ⟨final, reached, lastNested⟩ :=
    Run.run_of_guarded (Nested.passed wellFormed) firstNested passCalls
  cases Option.some.inj (reached.symm.trans ran)
  exact Deeper.returns wellFormed (StackRun.keeps_of_run layered ran deeper) nested notRoot
    lastNested (backCalls last ran).1 returnedBack level

end Excursions

/-- The stacks of a frame: equally high, with room for every list that can be opened, and
the chain of nodes above the list that is shown. -/
structure StacksValid (table : Table Func) (root : Nat) (frame : Frame Func) : Prop where
  even : frame.indexPtrStack.length = frame.lineStack.length
  room : ∀ target text, StepsDown table root frame (.jump2menu target) →
    target.or (indexOf table frame.psMenuCurr) = some text → HasChild table text.chars →
    frame.indexPtrStack.length < stageMax ∧ frame.lineStack.length < stageMax
  chain : (OnRootPage root frame ∧ frame.indexPtrStack = []) ∨
    ∃ parent start, Siblings table parent start frame.nSubNode ∧
      (∀ k < frame.nSubNode, frame.currNodeList k = some (start + k)) ∧
      Chain table root parent frame.indexPtrStack

theorem Nested.stacksValid {table : Table Func} {root : Nat} (wellFormed : WellFormed table root)
    {frame : Frame Func} (nested : Nested table root frame) : StacksValid table root frame where
  even := nested.stacked.even
  room := by
    intro target text down named hasChild
    have room := (nested.room wellFormed down named hasChild).1
    refine ⟨room, ?_⟩
    rwa [← nested.stacked.even]
  chain := by
    rcases nested.place with onPage | ⟨parent, start, count, lists, chain⟩
    · exact .inl onPage
    · refine .inr ⟨parent, start, ?_, ?_, chain⟩
      · rw [lists.shows.1]
        exact lists.siblings
      · rw [lists.shows.1]
        exact lists.shows.2

/-- Every descent from the frame is undone by the pass that first returns to its level,
and `menu_back` leads from a list of the root to the page of the root. -/
structure BackUndoesEnter (table : Table Func) (root : Nat) (frame : Frame Func) : Prop where
  valid : StacksValid table root frame
  excursions : ∀ enter inner back returned, frame.psMenuCurr ≠ some root →
    Run.Guarded (menuMain table) (PageCalls table (StepsDown table root)) frame
      (enter :: (inner ++ [back])) →
    Excursion table frame enter inner back returned → Restored frame returned
  rootPage : ∀ calls uninit parent start count, frame.menuStatus = .node →
    Lists table frame parent start count → '.' ∉ parent →
    ∃ next, menuMain table frame ⟨.downMenu, calls, uninit⟩ = some next ∧ OnRootPage root next ∧
      next.indexPtrStack = []

theorem Lists.parent_unique {table : Table Func} {frame : Frame Func} {parent other : List Char}
    {start count otherStart otherCount : Nat} (lists : Lists table frame parent start count)
    (otherLists : Lists table frame other otherStart otherCount) : parent = other := by
  obtain ⟨row, number, found, child⟩ := lists.row
  obtain ⟨otherRow, otherNumber, otherFound, otherChild⟩ := otherLists.row
  have same := Option.some.inj (lists.curr.symm.trans otherLists.curr)
  rw [← same, found] at otherFound
  cases otherFound
  exact (DottedPath.split_unique child.2 otherChild.2 (child.1.symm.trans otherChild.1)).1

theorem menuBack_undoes_enter (table : Table Func) (root : Nat)
    (wellFormed : WellFormed table root) (passes : List (Pass Func))
    (down : Run.Guarded (menuMain table) (PageCalls table (StepsDown table root))
      (menuVarInit table) passes) :
    ∃ frame, Run.run (menuMain table) (menuVarInit table) passes = some frame ∧
      BackUndoesEnter table root frame := by
  have initial : Nested table root (menuVarInit table) :=
    ⟨(menuVarInit_positioned wellFormed).stacked, .inl ⟨menuVarInit_onRootPage wellFormed, rfl⟩⟩
  obtain ⟨frame, ran, nested⟩ := Run.run_of_guarded (Nested.passed wellFormed) initial down
  refine ⟨frame, ran, nested.stacksValid wellFormed, ?_, ?_⟩
  · intro enter inner back returned notRoot calls excursion
    exact nested.excursion wellFormed notRoot calls excursion
  · intro calls uninit parent start count listing lists dotless
    obtain ⟨page, _⟩ | ⟨other, otherStart, otherCount, otherLists, chain⟩ := nested.place
    · exact absurd page.2 (lists.notRoot wellFormed)
    · rw [← lists.parent_unique otherLists] at chain
      obtain ⟨next, back, leaf, curr, _, below, _⟩ :=
        menuBack_root wellFormed uninit (chain.of_dotless dotless)
      refine ⟨next, ?_, ⟨leaf, curr⟩, below⟩
      rw [menuMain, listing]
      exact back

theorem menuBack_undoes_enter_firstLists :
    ∃ frame, Run.run (menuMain sMenu) (menuVarInit sMenu)
        [⟨.downOk, [.jump2menu none], 0⟩, ⟨.downOk, [], 0⟩] = some frame ∧
      BackUndoesEnter sMenu 0 frame := by
  apply menuBack_undoes_enter sMenu 0 sMenu_wellFormed
  refine ⟨fun _ => ⟨?_, fun _ _ => trivial⟩, fun _ _ => ⟨fun _ => trivial, fun _ _ => trivial⟩⟩
  have onPage := menuVarInit_onRootPage sMenu_wellFormed
  intro text named
  rw [onPage.2] at named
  rw [if_pos onPage.2]
  cases named
  exact ⟨by decide, 1, by decide, _, ['0'], rfl, rfl, by decide⟩

/-- The page of node 0.0.0 opens the list of node 0.1. -/
def sidewaysPasses : List (Pass PageFunc) :=
  [⟨.downOk, [.jump2menu none], 0⟩, ⟨.downOk, [], 0⟩, ⟨.downOk, [], 0⟩,
    ⟨.none, [.jump2menu (some ⟨['0', '.', '1'], by decide⟩)], 0⟩]

/-- The stack holds three nodes then, while the list of node 0.1 has two above it. -/
theorem stacks_invalid_after_sideways :
    ¬ ∀ (table : Table PageFunc) (root : Nat), WellFormed table root →
      ∀ passes frame, Run.run (menuMain table) (menuVarInit table) passes = some frame →
        StacksValid table root frame := by
  intro always
  have ran : (Run.run (menuMain sMenu) (menuVarInit sMenu) sidewaysPasses).map (fun frame =>
      (frame.menuStatus, frame.indexPtrStack.length, frame.nSubNode, frame.currNodeList 0)) =
        some (.node, 3, 6, some 21) := by decide +kernel
  obtain ⟨frame, reached, seen⟩ := Option.map_eq_some_iff.mp ran
  obtain ⟨status, height, counted, first⟩ :
      frame.menuStatus = .node ∧ frame.indexPtrStack.length = 3 ∧ frame.nSubNode = 6 ∧
        frame.currNodeList 0 = some 21 := by simpa using seen
  obtain ⟨⟨leaf, _⟩, _⟩ | ⟨parent, start, siblings, listed, chain⟩ :=
    (always sMenu 0 sMenu_wellFormed sidewaysPasses frame reached).chain
  · cases status.symm.trans leaf
  · obtain ⟨row, number, found, child, _⟩ := siblings.numbered 0 (by rw [counted]; decide)
    have here := listed 0 (by rw [counted]; decide)
    cases Option.some.inj (first.symm.trans here)
    cases Option.some.inj (found.symm.trans (show sMenu 21 = some _ from rfl))
    have dots := child.count
    have length := chain.length
    rw [height] at length
    have deep : (menuRow "0.1.0" (some .menuRelay1AlarmSel)).pIndex.chars.count '.' = 2 := by
      decide
    omega

end ZhuoduControl.Menu.Frame
