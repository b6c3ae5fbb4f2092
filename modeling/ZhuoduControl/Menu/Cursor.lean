import ZhuoduControl.Menu.MenuTable

/-! The cursor of the list that is shown and the window of rows around it. -/

set_option autoImplicit false

namespace ZhuoduControl.Menu.Frame

open ZhuoduControl.Library

variable {Func : Type}

/-- The cursor stands on the entry `index` of `count`, on the line `line` of a screen
that is full if the list is long enough. -/
structure Window (count index line : Nat) : Prop where
  inside : index < count
  top : line ≤ index
  onScreen : line < min lineMax count
  full : index - line + min lineMax count ≤ count

theorem Window.first {count : Nat} (some_child : 0 < count) : Window count 0 0 where
  inside := some_child
  top := Nat.le_refl 0
  onScreen := Nat.lt_min.mpr ⟨by decide, some_child⟩
  full := by omega

/-- The frame lists the children of `parent`, with its cursor on one of them. -/
structure Lists (table : Table Func) (frame : Frame Func) (parent : List Char)
    (start count : Nat) : Prop where
  siblings : Siblings table parent start count
  shows : Shows frame start count
  window : Window count frame.currIndex frame.currLine
  curr : frame.psMenuCurr = some (start + frame.currIndex)

section Keys

variable {table : Table Func} {frame : Frame Func} {parent : List Char} {start count : Nat}

theorem Lists.row (lists : Lists table frame parent start count) : ∃ row number,
    table (start + frame.currIndex) = some row ∧ IsChild parent row number := by
  obtain ⟨row, number, found, child, _⟩ := lists.siblings.numbered _ lists.window.inside
  exact ⟨row, number, found, child⟩

/-- A move of the cursor inside the window, or of the window by one row. -/
theorem Lists.move (lists : Lists table frame parent start count) {index line : Nat}
    (window : Window count index line) :
    Lists table { frame with
      currIndex := index, currLine := line, psMenuCurr := frame.currNodeList index }
      parent start count where
  siblings := lists.siblings
  shows := lists.shows
  window := window
  curr := lists.shows.2 index window.inside

theorem Lists.keyUp (lists : Lists table frame parent start count) :
    Lists table frame.keyUp parent start count := by
  obtain ⟨inside, top, onScreen, full⟩ := lists.window
  have bound : count ≤ 30 := lists.siblings.bound
  have counted : frame.nSubNode = count := lists.shows.1
  have screen : lineMax = 4 := rfl
  rw [Frame.keyUp]
  split
  · have last : (frame.nSubNode + 255) % 256 = count - 1 := by omega
    apply lists.move
    rw [last]
    split <;> constructor <;> omega
  · have above : (frame.currIndex + 255) % 256 = frame.currIndex - 1 := by omega
    apply lists.move
    rw [above]
    constructor <;> omega

theorem Lists.keyDown (lists : Lists table frame parent start count) :
    Lists table frame.keyDown parent start count := by
  obtain ⟨inside, top, onScreen, full⟩ := lists.window
  have counted : frame.nSubNode = count := lists.shows.1
  have screen : lineMax = 4 := rfl
  rw [Frame.keyDown]
  split
  · exact lists.move (Window.first (by omega))
  · have next : frame.currIndex + 1 < frame.nSubNode := by omega
    apply lists.move
    rw [if_pos next]
    split <;> constructor <;> omega

end Keys

/-- Everything but the status and the reload of a page is as before. -/
structure SamePlace (before after : Frame Func) : Prop where
  currIndex : after.currIndex = before.currIndex
  currLine : after.currLine = before.currLine
  nSubNode : after.nSubNode = before.nSubNode
  indexPtrStack : after.indexPtrStack = before.indexPtrStack
  lineStack : after.lineStack = before.lineStack
  currNodeList : after.currNodeList = before.currNodeList
  psMenuCurr : after.psMenuCurr = before.psMenuCurr

theorem SamePlace.refl (frame : Frame Func) : SamePlace frame frame :=
  ⟨rfl, rfl, rfl, rfl, rfl, rfl, rfl⟩

theorem SamePlace.trans {before middle after : Frame Func} (first : SamePlace before middle)
    (second : SamePlace middle after) : SamePlace before after where
  currIndex := second.currIndex.trans first.currIndex
  currLine := second.currLine.trans first.currLine
  nSubNode := second.nSubNode.trans first.nSubNode
  indexPtrStack := second.indexPtrStack.trans first.indexPtrStack
  lineStack := second.lineStack.trans first.lineStack
  currNodeList := second.currNodeList.trans first.currNodeList
  psMenuCurr := second.psMenuCurr.trans first.psMenuCurr

theorem Lists.samePlace {table : Table Func} {before after : Frame Func} {parent : List Char}
    {start count : Nat} (lists : Lists table before parent start count)
    (same : SamePlace before after) : Lists table after parent start count where
  siblings := lists.siblings
  shows := by
    rw [Shows, same.nSubNode, same.currNodeList]
    exact lists.shows
  window := by
    rw [same.currIndex, same.currLine]
    exact lists.window
  curr := by
    rw [same.currIndex, same.psMenuCurr]
    exact lists.curr

theorem leafExit_samePlace (frame : Frame Func) : SamePlace frame frame.leafExit :=
  ⟨rfl, rfl, rfl, rfl, rfl, rfl, rfl⟩

theorem jump2func_samePlace (pFunc : Option Func) (frame : Frame Func) :
    SamePlace frame (frame.jump2func pFunc) := by
  cases pFunc with
  | none => exact ⟨rfl, rfl, rfl, rfl, rfl, rfl, rfl⟩
  | some func => exact ⟨rfl, rfl, rfl, rfl, rfl, rfl, rfl⟩

/-- The frame has gone down into the children of `parent`. -/
structure Enters (table : Table Func) (parent : List Char) (before after : Frame Func) :
    Prop where
  lists : ∃ start count, Lists table after parent start count
  first : after.currIndex = 0
  indexPtrStack : after.indexPtrStack = push before.psMenuCurr before.indexPtrStack
  lineStack : after.lineStack = push before.currLine before.lineStack

def HasChild (table : Table Func) (parent : List Char) : Prop :=
  ∃ position < menuMax, ∃ row number, table position = some row ∧ IsChild parent row number

theorem Siblings.hasChild_iff {table : Table Func} {parent : List Char} {start count : Nat}
    (siblings : Siblings table parent start count) : HasChild table parent ↔ 0 < count := by
  constructor
  · intro hasChild
    obtain ⟨position, fits, row, number, found, child⟩ := hasChild
    obtain ⟨lower, upper⟩ := siblings.all position fits row number found child
    omega
  · intro some_child
    obtain ⟨row, number, found, child, _⟩ := siblings.numbered 0 some_child
    have fits := siblings.fits
    exact ⟨start + 0, by omega, row, number, found, child⟩

section Jumps

variable {table : Table Func} {root : Nat}

/-- Where a jump finds children it goes down, elsewhere it is a `leaf_exit`. -/
theorem jump2menu_cases (wellFormed : WellFormed table root) (uninit : Nat)
    {target : Option IndexText} {frame : Frame Func} {text : IndexText}
    (named : target.or (indexOf table frame.psMenuCurr) = some text) :
    ∃ next, jump2menu table uninit target frame = some next ∧ next.menuStatus = .node ∧
      next.reload = false ∧ ((¬ HasChild table text.chars ∧ SamePlace frame next) ∨
        (HasChild table text.chars ∧ Enters table text.chars frame next)) := by
  obtain ⟨start, count, siblings⟩ := wellFormed.siblings text.chars
  cases count with
  | zero =>
      simp only [jump2menu, named, Option.map_some, updateNodeList_empty siblings]
      refine ⟨_, rfl, rfl, rfl, .inl ⟨?_, leafExit_samePlace frame⟩⟩
      rw [siblings.hasChild_iff]
      exact Nat.lt_irrefl 0
  | succ count =>
      have some_child : 0 < count + 1 := Nat.succ_pos count
      obtain ⟨list, updated, listed⟩ := updateNodeList_shows siblings some_child uninit
        { frame with menuStatus := .node, reload := false }
      simp only [jump2menu, named, Option.map_some, updated, if_true]
      refine ⟨_, rfl, rfl, rfl, .inr ⟨siblings.hasChild_iff.mpr some_child, ?_⟩⟩
      refine ⟨⟨start, count + 1, ?_⟩, rfl, rfl, rfl⟩
      exact ⟨siblings, ⟨rfl, listed⟩, Window.first some_child, listed 0 some_child⟩

/-- A node with the line it was left on: the root, or an entry of a list whose window
fits the line. -/
structure InList (table : Table Func) (node : Option Nat) (line : Nat) (parent : List Char)
    (start count index : Nat) : Prop where
  siblings : Siblings table parent start count
  window : Window count index line
  node : node = some (start + index)

theorem Lists.inList {frame : Frame Func} {parent : List Char} {start count : Nat}
    (lists : Lists table frame parent start count) :
    InList table frame.psMenuCurr frame.currLine parent start count frame.currIndex :=
  ⟨lists.siblings, lists.window, lists.curr⟩

theorem InList.row {node : Option Nat} {line : Nat} {parent : List Char}
    {start count index : Nat} (inList : InList table node line parent start count index) :
    ∃ row number, node.bind table = some row ∧ IsChild parent row number ∧
      DecimalText.scanInt 3 number = some (index : Int) := by
  obtain ⟨row, number, found, child, scanned⟩ :=
    inList.siblings.numbered index inList.window.inside
  exact ⟨row, number, by rw [inList.node, Option.bind_some, found], child, scanned⟩

/-- `menu_back` out of the first list leads to the page of the root. -/
theorem menuBack_root (wellFormed : WellFormed table root) (uninit : Nat) {frame : Frame Func}
    {below : List (Option Nat)} (stacked : frame.indexPtrStack = some root :: below) :
    ∃ next, menuBack table uninit frame = some next ∧ next.menuStatus = .leaf ∧
      next.psMenuCurr = some root ∧ next.reload = frame.reload ∧ next.indexPtrStack = below ∧
      next.lineStack = frame.lineStack.tail ∧ next.nSubNode = 1 ∧
      next.currNodeList 0 = some root := by
  obtain ⟨row, found, isRoot⟩ := wellFormed.root_row
  have named : indexOf table (some root) = some row.pIndex := by
    rw [indexOf, Option.bind_some, found, Option.map_some]
  rw [menuBack, stacked]
  simp only [named, Option.map_some, isRoot, if_true]
  exact ⟨_, rfl, rfl, rfl, rfl, rfl, rfl, rfl,
    Memory.set_same frame.currNodeList 0 (some root)⟩

/-- `menu_back` restores the list of the node on top of the stack. -/
theorem menuBack_list (uninit : Nat) {frame : Frame Func} {top : Option Nat}
    {below : List (Option Nat)} {line : Nat} {lines : List Nat} {parent : List Char}
    {start count index : Nat} (stacked : frame.indexPtrStack = top :: below)
    (lined : frame.lineStack = line :: lines)
    (inList : InList table top line parent start count index) :
    ∃ next, menuBack table uninit frame = some next ∧
      next.menuStatus = frame.menuStatus ∧ next.reload = frame.reload ∧
      next.psMenuCurr = top ∧ next.currLine = line ∧ next.currIndex = index ∧
      next.indexPtrStack = below ∧ next.lineStack = lines ∧
      Lists table next parent start count := by
  obtain ⟨row, number, found, child, scanned⟩ := inList.row
  have inside := inList.window.inside
  have bound : count ≤ 30 := inList.siblings.bound
  have notRoot : row.pIndex.chars ≠ ['0'] := by
    intro isRoot
    have dot := child.dotted
    rw [isRoot] at dot
    exact absurd dot (by decide)
  have number_eq : getCurrIndex uninit row.pIndex.chars = index := by
    rw [getCurrIndex, child.lastPart]
    exact scanByte_eq scanned (by omega)
  have named : indexOf table top = some row.pIndex := by rw [indexOf, found, Option.map_some]
  obtain ⟨list, updated, listed⟩ := updateNodeList_shows inList.siblings
    (Nat.lt_of_le_of_lt (Nat.zero_le index) inside) uninit
    { frame with
      psMenuCurr := top
      indexPtrStack := below
      currLine := line
      lineStack := lines
      currIndex := index }
  rw [menuBack, stacked]
  simp only [named, Option.map_some, if_neg notRoot, number_eq, child.parentPart, lined,
    List.headD_cons, List.tail_cons, updated]
  refine ⟨_, rfl, rfl, rfl, rfl, rfl, rfl, rfl, rfl, ?_⟩
  exact ⟨inList.siblings, ⟨rfl, listed⟩, inList.window, inList.node⟩

end Jumps

/-- The two stacks read together. -/
def saved (frame : Frame Func) : List (Option Nat × Nat) :=
  frame.indexPtrStack.zip frame.lineStack

section Stacks

variable {Entry Other : Type}

theorem mem_push {entry added : Entry} {stack : List Entry} (member : entry ∈ push added stack) :
    entry = added ∨ entry ∈ stack := by
  rw [push] at member
  split at member
  · exact List.mem_cons.mp member
  · exact .inr member

theorem push_length (entry : Entry) (other : Other) {stack : List Entry} {others : List Other}
    (even : stack.length = others.length) :
    (push entry stack).length = (push other others).length := by
  rw [push, push, even]
  split
  · rw [List.length_cons, List.length_cons, even]
  · exact even

theorem push_zip (entry : Entry) (other : Other) {stack : List Entry} {others : List Other}
    (even : stack.length = others.length) :
    (push entry stack).zip (push other others) = push (entry, other) (stack.zip others) := by
  rw [push, push, push, List.length_zip, even, Nat.min_self]
  split
  · rfl
  · rfl

end Stacks

section Positions

variable {table : Table Func} {root : Nat}

/-- A stacked node resumes the list it was taken from; the root resumes its page. -/
def Resumable (table : Table Func) (root : Nat) (entry : Option Nat × Nat) : Prop :=
  entry.1 = some root ∨
    ∃ parent start count index, InList table entry.1 entry.2 parent start count index

structure Stacked (table : Table Func) (root : Nat) (frame : Frame Func) : Prop where
  even : frame.indexPtrStack.length = frame.lineStack.length
  resumable : ∀ entry ∈ frame.saved, Resumable table root entry

def OnRootPage (root : Nat) (frame : Frame Func) : Prop :=
  frame.menuStatus = .leaf ∧ frame.psMenuCurr = some root

/-- The frame shows the page of the root or lists the children of a node. -/
structure Positioned (table : Table Func) (root : Nat) (frame : Frame Func) : Prop where
  stacked : Stacked table root frame
  place : OnRootPage root frame ∨ ∃ parent start count, Lists table frame parent start count

theorem Stacked.samePlace {before after : Frame Func} (stacked : Stacked table root before)
    (nodes : after.indexPtrStack = before.indexPtrStack)
    (lines : after.lineStack = before.lineStack) : Stacked table root after where
  even := by
    rw [nodes, lines]
    exact stacked.even
  resumable := by
    rw [saved, nodes, lines]
    exact stacked.resumable

theorem Stacked.enters {before after : Frame Func} {parent : List Char}
    (stacked : Stacked table root before)
    (here : Resumable table root (before.psMenuCurr, before.currLine))
    (enters : Enters table parent before after) : Stacked table root after where
  even := by
    rw [enters.indexPtrStack, enters.lineStack]
    exact push_length _ _ stacked.even
  resumable := by
    intro entry member
    rw [saved, enters.indexPtrStack, enters.lineStack, push_zip _ _ stacked.even] at member
    rcases mem_push member with rfl | below
    · exact here
    · exact stacked.resumable entry below

/-- What stands on the stacks below their top. -/
theorem Stacked.below {before after : Frame Func} {node : Option Nat} {line : Nat}
    (stacked : Stacked table root before)
    (nodes : before.indexPtrStack = node :: after.indexPtrStack)
    (lines : before.lineStack = line :: after.lineStack) :
    Resumable table root (node, line) ∧ Stacked table root after := by
  obtain ⟨even, resumable⟩ := stacked
  rw [nodes, lines] at even
  rw [saved, nodes, lines, List.zip_cons_cons] at resumable
  refine ⟨resumable _ List.mem_cons_self, Nat.succ.inj even, ?_⟩
  exact fun entry member => resumable entry (List.mem_cons_of_mem _ member)

theorem Stacked.line {frame : Frame Func} {node : Option Nat} {below : List (Option Nat)}
    (stacked : Stacked table root frame) (nodes : frame.indexPtrStack = node :: below) :
    ∃ line lines, frame.lineStack = line :: lines := by
  have even := stacked.even
  rw [nodes] at even
  cases lines : frame.lineStack with
  | nil =>
      rw [lines] at even
      cases even
  | cons line rest => exact ⟨line, rest, rfl⟩

/-- The frame is back in the list of `node`, at its entry and line. -/
structure Resumes (table : Table Func) (node : Option Nat) (line : Nat) (after : Frame Func) :
    Prop where
  curr : after.psMenuCurr = node
  currLine : after.currLine = line
  lists : ∀ parent start count index, InList table node line parent start count index →
    after.currIndex = index ∧ Lists table after parent start count

/-- What a pass can do to a frame that shows a list. -/
inductive Outcome (table : Table Func) (root : Nat) (before after : Frame Func) : Prop where
  /-- the key was not for the list, or it opened the page of the entry -/
  | stays (same : SamePlace before after)
  | moves (lists : ∀ parent start count, Lists table before parent start count →
        Lists table after parent start count)
      (nodes : after.indexPtrStack = before.indexPtrStack)
      (lines : after.lineStack = before.lineStack)
  | enters (text : IndexText) (named : indexOf table before.psMenuCurr = some text)
      (child : HasChild table text.chars) (enters : Enters table text.chars before after)
  | resumes (node : Option Nat) (line : Nat)
      (nodes : before.indexPtrStack = node :: after.indexPtrStack)
      (lines : before.lineStack = line :: after.lineStack)
      (resumed : Resumes table node line after) (notRoot : node ≠ some root)
  | leaves (line : Nat) (nodes : before.indexPtrStack = some root :: after.indexPtrStack)
      (lines : before.lineStack = line :: after.lineStack) (page : OnRootPage root after)
      (single : after.nSubNode = 1 ∧ after.currNodeList 0 = some root)

theorem Lists.named {frame : Frame Func} {parent : List Char} {start count : Nat}
    (lists : Lists table frame parent start count) :
    ∃ text, indexOf table frame.psMenuCurr = some text := by
  obtain ⟨row, number, found, _⟩ := lists.row
  refine ⟨row.pIndex, ?_⟩
  rw [indexOf, lists.curr, Option.bind_some, found, Option.map_some]

theorem menuDefault_outcome (wellFormed : WellFormed table root) (uninit : Nat)
    {frame : Frame Func} {text : IndexText} (named : indexOf table frame.psMenuCurr = some text) :
    ∃ next, menuDefault table uninit frame = some next ∧ Outcome table root frame next := by
  have defaulted : (none : Option IndexText).or (indexOf table frame.psMenuCurr) = some text :=
    named
  obtain ⟨next, jumped, _, _, childless | ⟨child, enters⟩⟩ :=
    jump2menu_cases wellFormed uninit defaulted
  · exact ⟨next, jumped, .stays childless.2⟩
  · exact ⟨next, jumped, .enters text named child enters⟩

theorem menuBack_outcome (wellFormed : WellFormed table root) (uninit : Nat)
    {frame : Frame Func} (stacked : Stacked table root frame) :
    ∃ next, menuBack table uninit frame = some next ∧ Outcome table root frame next := by
  cases nodes : frame.indexPtrStack with
  | nil =>
      rw [menuBack, nodes]
      exact ⟨frame, rfl, .stays (SamePlace.refl frame)⟩
  | cons node below =>
      obtain ⟨line, lines, lined⟩ := stacked.line nodes
      have member : (node, line) ∈ frame.saved := by
        rw [saved, nodes, lined]
        exact List.mem_cons_self
      by_cases isRoot : node = some root
      · subst isRoot
        obtain ⟨next, back, leaf, curr, _, under, underLines, single⟩ :=
          menuBack_root wellFormed uninit nodes
        rw [lined, List.tail_cons] at underLines
        refine ⟨next, back, .leaves line ?_ ?_ ⟨leaf, curr⟩ single⟩
        · rw [nodes, under]
        · rw [lined, underLines]
      · rcases stacked.resumable _ member with atRoot | ⟨parent, start, count, index, inList⟩
        · exact absurd atRoot isRoot
        · obtain ⟨next, back, _, _, curr, currLine, _, under, underLines, _⟩ :=
            menuBack_list uninit nodes lined inList
          refine ⟨next, back, .resumes node line ?_ ?_ ⟨curr, currLine, ?_⟩ isRoot⟩
          · rw [nodes, under]
          · rw [lined, underLines]
          · intro parent start count index inList
            obtain ⟨other, backOther, _, _, _, _, restored, _, _, lists⟩ :=
              menuBack_list uninit nodes lined inList
            cases Option.some.inj (back.symm.trans backOther)
            exact ⟨restored, lists⟩

theorem nodeProc_outcome (wellFormed : WellFormed table root) (uninit : Nat) (msg : KeyCode)
    {frame : Frame Func} {parent : List Char} {start count : Nat}
    (stacked : Stacked table root frame) (lists : Lists table frame parent start count) :
    ∃ next, nodeProc table uninit msg frame = some next ∧ Outcome table root frame next := by
  have unmoved : SamePlace frame frame := SamePlace.refl frame
  cases msg with
  | downUp =>
      refine ⟨_, rfl, .moves (fun _ _ _ => Lists.keyUp) ?_ ?_⟩
      all_goals
        rw [keyUp]
        split <;> rfl
  | downDown =>
      refine ⟨_, rfl, .moves (fun _ _ _ => Lists.keyDown) ?_ ?_⟩
      all_goals
        rw [keyDown]
        split <;> rfl
  | downOk =>
      have present : frame.psMenuCurr ≠ none := by simp [lists.curr]
      rw [nodeProc, keyOk, if_neg present]
      split
      · exact ⟨_, rfl, .stays ⟨rfl, rfl, rfl, rfl, rfl, rfl, rfl⟩⟩
      · obtain ⟨text, named⟩ := lists.named
        exact menuDefault_outcome wellFormed uninit named
  | downMenu => exact menuBack_outcome wellFormed uninit stacked
  | none => exact ⟨frame, rfl, .stays unmoved⟩
  | downMenuAndOk => exact ⟨frame, rfl, .stays unmoved⟩
  | other => exact ⟨frame, rfl, .stays unmoved⟩

theorem Outcome.positioned {before after : Frame Func} {parent : List Char} {start count : Nat}
    (outcome : Outcome table root before after) (stacked : Stacked table root before)
    (lists : Lists table before parent start count) : Positioned table root after := by
  cases outcome with
  | stays same =>
      exact ⟨stacked.samePlace same.indexPtrStack same.lineStack,
        .inr ⟨parent, start, count, lists.samePlace same⟩⟩
  | moves kept nodes lines =>
      exact ⟨stacked.samePlace nodes lines, .inr ⟨parent, start, count, kept _ _ _ lists⟩⟩
  | enters text named child enters =>
      have here : Resumable table root (before.psMenuCurr, before.currLine) :=
        .inr ⟨parent, start, count, before.currIndex, lists.inList⟩
      obtain ⟨first, number, entered⟩ := enters.lists
      exact ⟨stacked.enters here enters, .inr ⟨_, first, number, entered⟩⟩
  | resumes node line nodes lines resumed notRoot =>
      obtain ⟨atRoot | ⟨other, first, number, index, inList⟩, below⟩ := stacked.below nodes lines
      · exact absurd atRoot notRoot
      · exact ⟨below, .inr ⟨other, first, number,
          (resumed.lists other first number index inList).2⟩⟩
  | leaves line nodes lines page _ => exact ⟨(stacked.below nodes lines).2, .inl page⟩

end Positions

/-- From the page of the root only a list that has entries is opened. -/
def OpensFromRoot (table : Table Func) (root : Nat) (frame : Frame Func) : Call Func → Prop
  | .leafExit => frame.psMenuCurr ≠ some root
  | .jump2menu target => frame.psMenuCurr = some root → ∀ text,
      target.or (indexOf table (some root)) = some text → HasChild table text.chars
  | .jump2func _ => True

/-- The page that is shown makes calls of this kind only. -/
def PageCalls (table : Table Func) (allowed : Frame Func → Call Func → Prop)
    (frame : Frame Func) (pass : Pass Func) : Prop :=
  frame.menuStatus = .leaf →
    Run.Guarded (leafCall table pass.uninit) allowed frame pass.calls

section Runs

variable {table : Table Func} {root : Nat}

theorem Lists.notRoot (wellFormed : WellFormed table root) {frame : Frame Func}
    {parent : List Char} {start count : Nat} (lists : Lists table frame parent start count) :
    frame.psMenuCurr ≠ some root := by
  intro atRoot
  obtain ⟨row, number, found, child⟩ := lists.row
  obtain ⟨rootRow, rootFound, isRoot⟩ := wellFormed.root_row
  have same : start + frame.currIndex = root := Option.some.inj (lists.curr.symm.trans atRoot)
  rw [same, rootFound] at found
  cases found
  have dot := child.dotted
  rw [isRoot] at dot
  exact absurd dot (by decide)

theorem Positioned.named (wellFormed : WellFormed table root) {frame : Frame Func}
    (positioned : Positioned table root frame) :
    ∃ text, indexOf table frame.psMenuCurr = some text := by
  rcases positioned.place with page | ⟨parent, start, count, lists⟩
  · obtain ⟨row, found, _⟩ := wellFormed.root_row
    exact ⟨row.pIndex, by rw [indexOf, page.2, Option.bind_some, found, Option.map_some]⟩
  · exact lists.named

theorem Positioned.here {frame : Frame Func} (positioned : Positioned table root frame) :
    Resumable table root (frame.psMenuCurr, frame.currLine) := by
  rcases positioned.place with page | ⟨parent, start, count, lists⟩
  · exact .inl page.2
  · exact .inr ⟨parent, start, count, frame.currIndex, lists.inList⟩

theorem Positioned.jump2menu (wellFormed : WellFormed table root) (uninit : Nat)
    {frame : Frame Func} {target : Option IndexText} (positioned : Positioned table root frame)
    (opens : OpensFromRoot table root frame (.jump2menu target)) :
    ∃ next, Frame.jump2menu table uninit target frame = some next ∧
      Positioned table root next := by
  obtain ⟨text, named⟩ : ∃ text, target.or (indexOf table frame.psMenuCurr) = some text := by
    cases target with
    | none => exact positioned.named wellFormed
    | some text => exact ⟨text, rfl⟩
  obtain ⟨next, jumped, _, _, ⟨childless, same⟩ | ⟨_, enters⟩⟩ :=
    jump2menu_cases wellFormed uninit named
  · refine ⟨next, jumped, positioned.stacked.samePlace same.indexPtrStack same.lineStack, ?_⟩
    rcases positioned.place with page | ⟨parent, start, count, lists⟩
    · rw [page.2] at named
      exact absurd (opens page.2 text named) childless
    · exact .inr ⟨parent, start, count, lists.samePlace same⟩
  · obtain ⟨start, count, lists⟩ := enters.lists
    exact ⟨next, jumped, positioned.stacked.enters positioned.here enters,
      .inr ⟨text.chars, start, count, lists⟩⟩

theorem Positioned.call (wellFormed : WellFormed table root) (uninit : Nat)
    (frame : Frame Func) (call : Call Func) (positioned : Positioned table root frame)
    (opens : OpensFromRoot table root frame call) :
    ∃ next, leafCall table uninit frame call = some next ∧ Positioned table root next := by
  cases call with
  | leafExit =>
      refine ⟨frame.leafExit, rfl, positioned.stacked.samePlace rfl rfl, ?_⟩
      rcases positioned.place with page | ⟨parent, start, count, lists⟩
      · exact absurd page.2 opens
      · exact .inr ⟨parent, start, count, lists.samePlace (leafExit_samePlace frame)⟩
  | jump2menu target => exact positioned.jump2menu wellFormed uninit opens
  | jump2func pFunc =>
      have same := jump2func_samePlace pFunc frame
      have status : (frame.jump2func pFunc).menuStatus = frame.menuStatus := by
        cases pFunc with
        | none => rfl
        | some func => rfl
      refine ⟨frame.jump2func pFunc, rfl,
        positioned.stacked.samePlace same.indexPtrStack same.lineStack, ?_⟩
      rcases positioned.place with page | ⟨parent, start, count, lists⟩
      · exact .inl ⟨status.trans page.1, same.psMenuCurr.trans page.2⟩
      · exact .inr ⟨parent, start, count, lists.samePlace same⟩

theorem Positioned.pass (wellFormed : WellFormed table root) (frame : Frame Func)
    (pass : Pass Func) (positioned : Positioned table root frame)
    (calls : PageCalls table (OpensFromRoot table root) frame pass) :
    ∃ next, menuMain table frame pass = some next ∧ Positioned table root next := by
  rw [menuMain]
  cases status : frame.menuStatus with
  | leaf =>
      exact Run.run_of_guarded (Positioned.call wellFormed pass.uninit) positioned (calls status)
  | node =>
      rcases positioned.place with page | ⟨parent, start, count, lists⟩
      · cases status.symm.trans page.1
      · obtain ⟨next, stepped, outcome⟩ :=
          nodeProc_outcome wellFormed pass.uninit pass.key positioned.stacked lists
        exact ⟨next, stepped, outcome.positioned positioned.stacked lists⟩

theorem menuVarInit_onRootPage (wellFormed : WellFormed table root) :
    OnRootPage root (menuVarInit table) := by
  obtain ⟨row, found, isRoot⟩ := wellFormed.root_row
  refine ⟨rfl, ?_⟩
  have rootFits : root < 70 := wellFormed.root_fits
  simp only [menuVarInit, List.find?_range_eq_some]
  refine ⟨?_, List.mem_range.mpr rootFits, ?_⟩
  · simp [indexOf, found, isRoot]
  · intro position before
    cases other : table position with
    | none => simp [indexOf, other]
    | some row =>
        have dot := wellFormed.dotted position (Nat.lt_trans before rootFits) row other
          (Nat.ne_of_lt before)
        have notRoot : row.pIndex.chars ≠ ['0'] := by
          intro isRoot
          rw [isRoot] at dot
          exact absurd dot (by decide)
        simp [indexOf, other, notRoot]

theorem menuVarInit_positioned (wellFormed : WellFormed table root) :
    Positioned table root (menuVarInit table) :=
  ⟨⟨rfl, by simp [saved, menuVarInit]⟩, .inl (menuVarInit_onRootPage wellFormed)⟩

end Runs

end ZhuoduControl.Menu.Frame
