import ZhuoduControl.Menu.BackStack
import ZhuoduControl.Menu.Pages

/-! Every pass of the menu thread succeeds, and the pages of `s_Menu` keep to the calls
under which the frame is sound. -/

set_option autoImplicit false

namespace ZhuoduControl.Menu.Frame

variable {Func : Type} {table : Table Func}

theorem updateNodeList_keeps (table : Table Func) (uninit : Nat) (path : List Char) (frame : Frame Func) :
    (updateNodeList table uninit path frame).1.reload = frame.reload ∧
      (updateNodeList table uninit path frame).1.menuStatus = frame.menuStatus ∧
      (updateNodeList table uninit path frame).1.psMenuCurr = frame.psMenuCurr := by
  rw [updateNodeList]
  split
  · exact ⟨rfl, rfl, rfl⟩
  · exact ⟨rfl, rfl, rfl⟩

theorem jump2menu_status {uninit : Nat} {target : Option IndexText} {frame next : Frame Func}
    (jumped : jump2menu table uninit target frame = some next) :
    next.menuStatus = .node ∧ next.reload = false := by
  obtain ⟨text, _, rfl⟩ := Option.map_eq_some_iff.mp jumped
  obtain ⟨reload, status, _⟩ := updateNodeList_keeps table uninit
    (text.chars ++ ['.']) { frame with menuStatus := .node, reload := false }
  dsimp only
  split
  · exact ⟨status, reload⟩
  · exact ⟨status, reload⟩

/-- What a key makes of the status while a list is shown: a page is called through the
function of its row, or it is the page of the root. -/
theorem nodeProc_status {uninit : Nat} {msg : KeyCode} {frame next : Frame Func}
    (listing : frame.menuStatus = .node) (unloaded : frame.reload = false)
    (stepped : nodeProc table uninit msg frame = some next) :
    next.reload = false ∧ (next.menuStatus = .leaf →
      (funcOf table next.psMenuCurr).isSome ∨
        ∃ text, indexOf table next.psMenuCurr = some text ∧ text.chars = ['0']) := by
  have unmoved : frame.menuStatus ≠ .leaf := by simp [listing]
  cases msg with
  | downUp =>
      cases Option.some.inj stepped
      rw [keyUp]
      split
      · exact ⟨unloaded, fun leaf => absurd leaf unmoved⟩
      · exact ⟨unloaded, fun leaf => absurd leaf unmoved⟩
  | downDown =>
      cases Option.some.inj stepped
      rw [keyDown]
      split
      · exact ⟨unloaded, fun leaf => absurd leaf unmoved⟩
      · exact ⟨unloaded, fun leaf => absurd leaf unmoved⟩
  | downOk =>
      rw [nodeProc, keyOk] at stepped
      split at stepped
      · cases stepped
      · split at stepped
        case isTrue called =>
          cases Option.some.inj stepped
          exact ⟨unloaded, fun _ => .inl called.1⟩
        case isFalse =>
          obtain ⟨status, reload⟩ := jump2menu_status stepped
          exact ⟨reload, fun leaf => by cases status.symm.trans leaf⟩
  | downMenu =>
      rw [nodeProc, menuBack] at stepped
      split at stepped
      · cases Option.some.inj stepped
        exact ⟨unloaded, fun leaf => absurd leaf unmoved⟩
      · obtain ⟨text, named, rfl⟩ := Option.map_eq_some_iff.mp stepped
        dsimp only
        split
        case isTrue isRoot => exact ⟨unloaded, fun _ => .inr ⟨text, named, isRoot⟩⟩
        case isFalse =>
          obtain ⟨reload, status, _⟩ := updateNodeList_keeps table uninit
            (parentPart text.chars) { frame with
              psMenuCurr := _
              indexPtrStack := _
              currLine := frame.lineStack.headD 0
              lineStack := frame.lineStack.tail
              currIndex := getCurrIndex uninit text.chars }
          exact ⟨reload.trans unloaded, fun leaf => absurd (status.symm.trans leaf) unmoved⟩
  | none =>
      cases Option.some.inj stepped
      exact ⟨unloaded, fun leaf => absurd leaf unmoved⟩
  | downMenuAndOk =>
      cases Option.some.inj stepped
      exact ⟨unloaded, fun leaf => absurd leaf unmoved⟩
  | other =>
      cases Option.some.inj stepped
      exact ⟨unloaded, fun leaf => absurd leaf unmoved⟩

/-- Back on the root the list holds the root alone. -/
theorem Outcome.rootList {root : Nat} (wellFormed : WellFormed table root)
    {before after : Frame Func} {parent : List Char} {start count : Nat}
    (outcome : Outcome table root before after)
    (lists : Lists table before parent start count) (atRoot : after.psMenuCurr = some root) :
    ∀ k < after.nSubNode, after.currNodeList k = some root := by
  have notRoot := lists.notRoot wellFormed
  cases outcome with
  | stays same => exact absurd (same.psMenuCurr.symm.trans atRoot) notRoot
  | moves kept _ _ => exact absurd atRoot ((kept _ _ _ lists).notRoot wellFormed)
  | enters text named child enters =>
      obtain ⟨first, number, entered⟩ := enters.lists
      exact absurd atRoot (entered.notRoot wellFormed)
  | resumes node line nodes lines resumed nodeNotRoot =>
      exact absurd (resumed.curr.symm.trans atRoot) nodeNotRoot
  | leaves line nodes lines page single =>
      intro k below
      have only : k = 0 := by omega
      rw [only]
      exact single.2

end ZhuoduControl.Menu.Frame

namespace ZhuoduControl.Menu.Edit

open ZhuoduControl.Library
open ZhuoduControl.Data
open ZhuoduControl.Menu.Frame

/-- What holds of the menu between two passes. -/
structure Running (state : MenuState) : Prop where
  nested : Nested sMenu 0 state.frame
  unloaded : state.frame.menuStatus = .node → state.frame.reload = false
  reloaded : state.frame.reload = true →
    state.frame.virtualFunc = some .passProc ∧ state.frame.psMenuCurr = some 0
  callable : state.frame.menuStatus = .leaf → ∃ func, state.active = some func
  rootList : state.frame.psMenuCurr = some 0 →
    ∀ k < state.frame.nSubNode, state.frame.currNodeList k = some 0

theorem menuRows_pages : ∀ row ∈ menuRows.tail,
    row.pFunc ≠ some .menuMainDisp ∧ row.pFunc ≠ some .passProc := by
  decide +kernel

theorem funcOf_root : funcOf sMenu (some 0) = some .menuMainDisp := rfl

theorem funcOf_page {pointer : Option Nat} {func : PageFunc}
    (found : funcOf sMenu pointer = some func) (notRoot : pointer ≠ some 0) :
    func ≠ .menuMainDisp ∧ func ≠ .passProc := by
  cases pointer with
  | none => cases found
  | some position =>
      cases position with
      | zero => exact absurd rfl notRoot
      | succ position =>
          obtain ⟨row, rowFound, isFunc⟩ := Option.bind_eq_some_iff.mp found
          have member : row ∈ menuRows.tail :=
            List.mem_of_getElem? (i := position) (by simpa [sMenu, List.getElem?_tail] using rowFound)
          obtain ⟨notMain, notPass⟩ := menuRows_pages row member
          rw [isFunc] at notMain notPass
          exact ⟨fun same => notMain (congrArg some same), fun same => notPass (congrArg some same)⟩

theorem root_of_index {pointer : Option Nat} {text : IndexText}
    (named : indexOf sMenu pointer = some text) (isRoot : text.chars = ['0']) :
    pointer = some 0 := by
  obtain ⟨row, found, rfl⟩ := Option.map_eq_some_iff.mp named
  obtain ⟨position, rfl, listed⟩ := Option.bind_eq_some_iff.mp found
  apply congrArg some
  apply Decidable.byContradiction
  intro notRoot
  have fits : position < menuRows.length := (List.getElem?_eq_some_iff.mp listed).1
  have dot := sMenu_wellFormed.dotted position (Nat.lt_of_lt_of_le fits (by decide)) row listed
    notRoot
  rw [isRoot] at dot
  exact absurd dot (by decide)

/-- The root shows its own page or `pass_proc`, the other nodes neither. -/
theorem Running.place {state : MenuState} (running : Running state) {func : PageFunc}
    (called : state.active = some func) :
    (state.frame.psMenuCurr = some 0 ∧ state.frame.menuStatus = .leaf ∧
        (func = .menuMainDisp ∨ func = .passProc)) ∨
      (state.frame.psMenuCurr ≠ some 0 ∧ state.frame.reload = false ∧
        state.frame.menuStatus = .leaf ∧ func ≠ .menuMainDisp ∧ func ≠ .passProc) := by
  rw [MenuState.active] at called
  cases status : state.frame.menuStatus with
  | node =>
      rw [status] at called
      cases called
  | leaf =>
      rw [status] at called
      cases reload : state.frame.reload with
      | true =>
          obtain ⟨virtual, root⟩ := running.reloaded reload
          simp only [reload, if_true, virtual] at called
          cases called
          exact .inl ⟨root, rfl, .inr rfl⟩
      | false =>
          simp only [reload, Bool.false_eq_true, if_false] at called
          by_cases root : state.frame.psMenuCurr = some 0
          · rw [root, funcOf_root] at called
            cases called
            exact .inl ⟨root, rfl, .inl rfl⟩
          · exact .inr ⟨root, rfl, rfl, funcOf_page called root⟩

theorem pageBody_other {func : PageFunc} (notMain : func ≠ .menuMainDisp)
    (notPass : func ≠ .passProc) : pageBody func ≠ .root ∧ pageBody func ≠ .password := by
  cases func
  case menuMainDisp => exact absurd rfl notMain
  case passProc => exact absurd rfl notPass
  all_goals exact ⟨PageBody.noConfusion, PageBody.noConfusion⟩

theorem leave_calls (exits : Bool) : leave exits = [] ∨ leave exits = [.leafExit] := by
  cases exits with
  | false => exact .inl rfl
  | true => exact .inr rfl

/-- A page other than those of the root calls `leaf_exit` or nothing. -/
theorem runPage_calls (pass : MenuPass) (statics : Statics) {func : PageFunc}
    (notMain : func ≠ .menuMainDisp) (notPass : func ≠ .passProc) :
    (runPage pass statics (pageBody func)).calls = [] ∨
      (runPage pass statics (pageBody func)).calls = [.leafExit] := by
  obtain ⟨notRoot, notPassword⟩ := pageBody_other notMain notPass
  cases body : pageBody func with
  | root => exact absurd body notRoot
  | password => exact absurd body notPassword
  | display => exact leave_calls _
  | boxes => exact leave_calls _
  | resetFactory =>
      rw [runPage, menuResetFactory]
      split
      · exact .inl rfl
      · exact .inl rfl
      · exact .inr rfl
      · exact .inl rfl
      · exact .inl rfl
  | select args => exact leave_calls _
  | number args => exact leave_calls _
  | current page own =>
      rw [runPage, currentPage]
      split
      · exact .inr rfl
      · exact .inl rfl

/-- What a pass can do to the menu. -/
inductive Turn (state : MenuState) (pass : MenuPass) (next : MenuState) : Prop where
  | list (listing : state.frame.menuStatus = .node) (statics : next.statics = state.statics)
      (stepped : nodeProc sMenu pass.uninit pass.key state.frame = some next.frame)
  | stays (func : PageFunc) (called : state.active = some func)
      (next_eq : next = ⟨state.frame, (runPage pass state.statics (pageBody func)).statics⟩)
      (calls : (runPage pass state.statics (pageBody func)).calls = [])
  | leaves (func : PageFunc) (called : state.active = some func)
      (notRoot : state.frame.psMenuCurr ≠ some 0)
      (next_eq : next =
        ⟨state.frame.leafExit, (runPage pass state.statics (pageBody func)).statics⟩)
      (calls : (runPage pass state.statics (pageBody func)).calls = [.leafExit])
  | opens (called : state.active = some .menuMainDisp) (root : state.frame.psMenuCurr = some 0)
      (statics : next.statics = state.statics) (listing : next.frame.menuStatus = .node)
      (enters : Enters sMenu ['0'] state.frame next.frame)
  | asks (called : state.active = some .menuMainDisp) (root : state.frame.psMenuCurr = some 0)
      (next_eq : next = ⟨state.frame.jump2func (some .passProc), state.statics⟩)
  | accepts (called : state.active = some .passProc) (root : state.frame.psMenuCurr = some 0)
      (passWord : List U8) (entered : (getPassword pass.key state.statics).2 = some passWord)
      (equal : strncmpEqual 6 passWord (charBytes pass.global.passwordBuf) = true)
      (statics : next.statics = (getPassword pass.key state.statics).1)
      (listing : next.frame.menuStatus = .node)
      (enters : Enters sMenu ['1'] state.frame next.frame)
  | refuses (called : state.active = some .passProc) (root : state.frame.psMenuCurr = some 0)
      (passWord : List U8) (entered : (getPassword pass.key state.statics).2 = some passWord)
      (different : strncmpEqual 6 passWord (charBytes pass.global.passwordBuf) = false)
      (next_eq : next =
        ⟨state.frame.jump2func none, (getPassword pass.key state.statics).1⟩)
  | resets (next_eq : next = menuInit)

theorem frameStep_nil {pass : MenuPass} {statics : Statics} {frame : Frame PageFunc}
    (leaf : frame.menuStatus = .leaf) : frameStep pass [] statics frame = some ⟨frame, statics⟩ := by
  rw [frameStep, menuMain, leaf]
  rfl

theorem frameStep_call {pass : MenuPass} {statics : Statics} {frame next : Frame PageFunc}
    {call : Call PageFunc} (leaf : frame.menuStatus = .leaf)
    (called : leafCall sMenu pass.uninit frame call = some next) :
    frameStep pass [call] statics frame = some ⟨next, statics⟩ := by
  rw [frameStep, menuMain, leaf]
  simp only [Run.run_of_step called]
  rfl

theorem hasChild_main : HasChild sMenu ['0'] :=
  ⟨1, by decide, _, ['0'], rfl, rfl, by decide⟩

theorem hasChild_service : HasChild sMenu ['1'] :=
  ⟨41, by decide, _, ['0'], rfl, rfl, by decide⟩

/-- The two lists of the root can be opened. -/
theorem opens_root (uninit : Nat) {frame : Frame PageFunc} {target : Option IndexText}
    {text : IndexText} (nested : Nested sMenu 0 frame) (root : frame.psMenuCurr = some 0)
    (named : target.or (indexOf sMenu (some 0)) = some text) (dotless : '.' ∉ text.chars)
    (hasChild : HasChild sMenu text.chars) :
    ∃ next, leafCall sMenu uninit frame (.jump2menu target) = some next ∧
      Nested sMenu 0 next ∧ next.menuStatus = .node ∧ next.reload = false ∧
      Enters sMenu text.chars frame next := by
  rw [← root] at named
  have down : StepsDown sMenu 0 frame (.jump2menu target) := by
    intro other otherNamed
    cases Option.some.inj (named.symm.trans otherNamed)
    rw [if_pos root]
    exact ⟨dotless, hasChild⟩
  obtain ⟨next, jumped, status, reload, ⟨childless, _⟩ | ⟨_, enters⟩⟩ :=
    jump2menu_cases sMenu_wellFormed uninit named
  · exact absurd hasChild childless
  · exact ⟨next, jumped, (nested.enters sMenu_wellFormed down named hasChild enters).1, status,
      reload, enters⟩

theorem menuInit_running : Running menuInit := by
  have page := menuVarInit_onRootPage sMenu_wellFormed
  refine ⟨⟨(menuVarInit_positioned sMenu_wellFormed).stacked, .inl ⟨page, rfl⟩⟩, ?_, ?_, ?_,
    fun _ _ none_listed => absurd none_listed (Nat.not_lt_zero _)⟩
  · intro listing
    cases listing
  · intro reload
    cases reload
  · intro _
    refine ⟨.menuMainDisp, ?_⟩
    show funcOf sMenu (menuVarInit sMenu).psMenuCurr = _
    rw [page.2]
    rfl

section Steps

variable {state : MenuState}

theorem Running.withStatics (running : Running state) (statics : Statics) :
    Running ⟨state.frame, statics⟩ :=
  ⟨running.nested, running.unloaded, running.reloaded, running.callable, running.rootList⟩

theorem Running.leafExit (running : Running state) (notRoot : state.frame.psMenuCurr ≠ some 0)
    (statics : Statics) : Running ⟨state.frame.leafExit, statics⟩ where
  nested := running.nested.samePlace (leafExit_samePlace _) fun page => absurd page.2 notRoot
  unloaded := fun _ => rfl
  reloaded := nofun
  callable := nofun
  rootList := fun root => absurd root notRoot

theorem active_jump2func_none (root : state.frame.psMenuCurr = some 0)
    (leaf : state.frame.menuStatus = .leaf) (statics : Statics) :
    MenuState.active ⟨state.frame.jump2func none, statics⟩ = some .menuMainDisp := by
  simp only [MenuState.active, Frame.jump2func, leaf, root, Bool.false_eq_true, if_false]
  rfl

theorem Running.jump2func (running : Running state) (root : state.frame.psMenuCurr = some 0)
    (leaf : state.frame.menuStatus = .leaf) {pFunc : Option PageFunc}
    (known : pFunc = none ∨ pFunc = some .passProc) (statics : Statics) :
    Running ⟨state.frame.jump2func pFunc, statics⟩ := by
  have notNode : state.frame.menuStatus ≠ .node := by simp [leaf]
  rcases known with rfl | rfl
  · exact ⟨running.nested.samePlace (jump2func_samePlace none state.frame) fun _ => leaf,
      fun listing => absurd listing notNode, nofun,
      fun _ => ⟨.menuMainDisp, active_jump2func_none root leaf statics⟩, running.rootList⟩
  · refine ⟨running.nested.samePlace (jump2func_samePlace (some .passProc) state.frame)
      fun _ => leaf, fun listing => absurd listing notNode, fun _ => ⟨rfl, root⟩,
      fun _ => ⟨.passProc, ?_⟩, running.rootList⟩
    simp only [MenuState.active, Frame.jump2func, leaf, if_true]

theorem Running.entered {frame : Frame PageFunc} {statics : Statics}
    (nested : Nested sMenu 0 frame) (listing : frame.menuStatus = .node)
    (unloaded : frame.reload = false) : Running ⟨frame, statics⟩ where
  nested := nested
  unloaded := fun _ => unloaded
  reloaded := fun reload => by cases unloaded.symm.trans reload
  callable := fun leaf => by cases listing.symm.trans leaf
  rootList := by
    intro root
    rcases nested.place with ⟨page, _⟩ | ⟨parent, start, count, lists, _⟩
    · cases listing.symm.trans page.1
    · exact absurd root (lists.notRoot sMenu_wellFormed)

theorem menuStep_list (running : Running state) (pass : MenuPass)
    (listing : state.frame.menuStatus = .node) :
    ∃ next, menuStep state pass = some next ∧ Running next ∧ Turn state pass next := by
  obtain ⟨page, _⟩ | ⟨parent, start, count, lists, chain⟩ := running.nested.place
  · cases listing.symm.trans page.1
  obtain ⟨next, stepped, outcome⟩ := nodeProc_outcome sMenu_wellFormed pass.uninit pass.key
    running.nested.stacked lists
  obtain ⟨nested, _⟩ := outcome.nested sMenu_wellFormed running.nested.stacked lists chain
  obtain ⟨unloaded, page⟩ := nodeProc_status listing (running.unloaded listing) stepped
  refine ⟨⟨next, state.statics⟩, ?_, ⟨nested, fun _ => unloaded, ?_, ?_, ?_⟩,
    .list listing rfl stepped⟩
  · simp only [menuStep, listing, frameStep, menuMain, stepped]
    rfl
  · intro reload
    cases unloaded.symm.trans reload
  · intro leaf
    simp only [MenuState.active, show next.menuStatus = .leaf from leaf, unloaded,
      Bool.false_eq_true, if_false]
    rcases page leaf with function | ⟨text, named, isRoot⟩
    · exact Option.isSome_iff_exists.mp function
    · rw [root_of_index named isRoot]
      exact ⟨.menuMainDisp, rfl⟩
  · intro root k below
    exact outcome.rootList sMenu_wellFormed lists root k below

/-- A page that is called and does not restart the system. -/
theorem menuStep_page {func : PageFunc} {pass : MenuPass} (leaf : state.frame.menuStatus = .leaf)
    (called : state.active = some func)
    (goes_on : (runPage pass state.statics (pageBody func)).reset = false) :
    menuStep state pass = frameStep pass (runPage pass state.statics (pageBody func)).calls
      (runPage pass state.statics (pageBody func)).statics state.frame := by
  simp only [menuStep, leaf, called, goes_on, Bool.false_eq_true, if_false]

theorem menuMainDisp_cases (pass : MenuPass) (statics : Statics) :
    menuMainDisp pass statics = ⟨statics, [], false⟩ ∨
      menuMainDisp pass statics = ⟨statics, [.jump2func (some .passProc)], false⟩ ∨
      menuMainDisp pass statics = ⟨statics, [.jump2menu none], false⟩ := by
  rw [menuMainDisp]
  split
  · exact .inr (.inl rfl)
  · exact .inr (.inr rfl)
  · exact .inl rfl

theorem menuStep_main (running : Running state) (pass : MenuPass)
    (leaf : state.frame.menuStatus = .leaf) (root : state.frame.psMenuCurr = some 0)
    (called : state.active = some .menuMainDisp) :
    ∃ next, menuStep state pass = some next ∧ Running next ∧ Turn state pass next := by
  have page : runPage pass state.statics (pageBody .menuMainDisp) =
      menuMainDisp pass state.statics := rfl
  rcases menuMainDisp_cases pass state.statics with result | result | result
  · rw [menuStep_page leaf called (by rw [page, result]), page, result]
    refine ⟨_, frameStep_nil leaf, running.withStatics _, .stays .menuMainDisp called ?_ ?_⟩
    · rw [page, result]
    · rw [page, result]
  · rw [menuStep_page leaf called (by rw [page, result]), page, result]
    exact ⟨_, frameStep_call leaf rfl, running.jump2func root leaf (.inr rfl) _,
      .asks called root rfl⟩
  · have named : (none : Option IndexText).or (indexOf sMenu (some 0)) =
        some ⟨['0'], by decide⟩ := rfl
    obtain ⟨next, jumped, nested, listing, unloaded, enters⟩ :=
      opens_root pass.uninit running.nested root named (by decide) hasChild_main
    rw [menuStep_page leaf called (by rw [page, result]), page, result]
    exact ⟨_, frameStep_call leaf jumped, .entered nested listing unloaded,
      .opens called root rfl listing enters⟩

theorem passProc_editing {pass : MenuPass} {statics : Statics}
    (entered : (getPassword pass.key statics).2 = none) :
    passProc pass statics = ⟨(getPassword pass.key statics).1, [], false⟩ := by
  rw [passProc]
  cases outcome : getPassword pass.key statics with
  | mk edited passWord =>
      rw [outcome] at entered
      cases entered
      rfl

theorem passProc_entered {pass : MenuPass} {statics : Statics} {passWord : List U8}
    (entered : (getPassword pass.key statics).2 = some passWord) :
    passProc pass statics =
      if strncmpEqual 6 passWord (charBytes pass.global.passwordBuf) then
        ⟨(getPassword pass.key statics).1, [.jump2menu (some serviceIndex)], false⟩
      else ⟨(getPassword pass.key statics).1, [.jump2func none], false⟩ := by
  rw [passProc]
  cases outcome : getPassword pass.key statics with
  | mk edited out =>
      rw [outcome] at entered
      cases entered
      rfl

theorem menuStep_accepts (running : Running state) {pass : MenuPass} {passWord : List U8}
    (leaf : state.frame.menuStatus = .leaf) (root : state.frame.psMenuCurr = some 0)
    (called : state.active = some .passProc)
    (entered : (getPassword pass.key state.statics).2 = some passWord)
    (equal : strncmpEqual 6 passWord (charBytes pass.global.passwordBuf) = true) :
    ∃ next, menuStep state pass = some next ∧ Running next ∧
      next.statics = (getPassword pass.key state.statics).1 ∧
      next.frame.menuStatus = .node ∧ Enters sMenu ['1'] state.frame next.frame := by
  have result : runPage pass state.statics (pageBody .passProc) =
      ⟨(getPassword pass.key state.statics).1, [.jump2menu (some serviceIndex)], false⟩ := by
    rw [pageBody, runPage, passProc_entered entered, if_pos equal]
  obtain ⟨next, jumped, nested, listing, unloaded, enters⟩ :=
    opens_root pass.uninit running.nested root (show (some serviceIndex).or
      (indexOf sMenu (some 0)) = some serviceIndex from rfl) (by decide) hasChild_service
  rw [menuStep_page leaf called (by rw [result]), result]
  exact ⟨_, frameStep_call leaf jumped, .entered nested listing unloaded, rfl, listing, enters⟩

theorem menuStep_refuses {pass : MenuPass} {passWord : List U8}
    (leaf : state.frame.menuStatus = .leaf) (called : state.active = some .passProc)
    (entered : (getPassword pass.key state.statics).2 = some passWord)
    (different : strncmpEqual 6 passWord (charBytes pass.global.passwordBuf) = false) :
    menuStep state pass =
      some ⟨state.frame.jump2func none, (getPassword pass.key state.statics).1⟩ := by
  have result : runPage pass state.statics (pageBody .passProc) =
      ⟨(getPassword pass.key state.statics).1, [.jump2func none], false⟩ := by
    rw [pageBody, runPage, passProc_entered entered, if_neg (by rw [different]; decide)]
  rw [menuStep_page leaf called (by rw [result]), result]
  exact frameStep_call leaf rfl

theorem menuStep_password (running : Running state) (pass : MenuPass)
    (leaf : state.frame.menuStatus = .leaf) (root : state.frame.psMenuCurr = some 0)
    (called : state.active = some .passProc) :
    ∃ next, menuStep state pass = some next ∧ Running next ∧ Turn state pass next := by
  cases entered : (getPassword pass.key state.statics).2 with
  | none =>
      have result : runPage pass state.statics (pageBody .passProc) =
          ⟨(getPassword pass.key state.statics).1, [], false⟩ := passProc_editing entered
      rw [menuStep_page leaf called (by rw [result]), result]
      refine ⟨_, frameStep_nil leaf, running.withStatics _, .stays .passProc called ?_ ?_⟩
      · rw [result]
      · rw [result]
  | some passWord =>
      cases equal : strncmpEqual 6 passWord (charBytes pass.global.passwordBuf) with
      | true =>
          obtain ⟨next, stepped, nextRunning, statics, listing, enters⟩ :=
            menuStep_accepts running leaf root called entered equal
          exact ⟨next, stepped, nextRunning,
            .accepts called root passWord entered equal statics listing enters⟩
      | false =>
          exact ⟨_, menuStep_refuses leaf called entered equal,
            running.jump2func root leaf (.inl rfl) _,
            .refuses called root passWord entered equal rfl⟩

theorem menuStep_turn (running : Running state) (pass : MenuPass) :
    ∃ next, menuStep state pass = some next ∧ Running next ∧ Turn state pass next := by
  cases status : state.frame.menuStatus with
  | node => exact menuStep_list running pass status
  | leaf =>
      obtain ⟨func, called⟩ := running.callable status
      rcases running.place called with ⟨root, _, rfl | rfl⟩ | ⟨notRoot, _, _, notMain, notPass⟩
      · exact menuStep_main running pass status root called
      · exact menuStep_password running pass status root called
      · cases reset : (runPage pass state.statics (pageBody func)).reset with
        | true =>
            refine ⟨menuInit, ?_, menuInit_running, .resets rfl⟩
            simp only [menuStep, status, called, reset, if_true]
        | false =>
            rw [menuStep_page status called reset]
            rcases runPage_calls pass state.statics notMain notPass with calls | calls
            · rw [calls]
              exact ⟨_, frameStep_nil status, running.withStatics _, .stays func called rfl calls⟩
            · rw [calls]
              exact ⟨_, frameStep_call status rfl, running.leafExit notRoot _,
                .leaves func called notRoot rfl calls⟩

theorem Running.step {pass : MenuPass} {next : MenuState} (running : Running state)
    (stepped : menuStep state pass = some next) : Running next ∧ Turn state pass next := by
  obtain ⟨other, again, otherRunning, turn⟩ := menuStep_turn running pass
  cases Option.some.inj (again.symm.trans stepped)
  exact ⟨otherRunning, turn⟩

theorem menuRun_running (passes : List MenuPass) :
    ∃ state, Run.run menuStep menuInit passes = some state ∧ Running state := by
  refine Run.run_of_total ?_ menuInit_running passes
  intro state pass running
  obtain ⟨next, stepped, nextRunning, _⟩ := menuStep_turn running pass
  exact ⟨next, stepped, nextRunning⟩

end Steps

end ZhuoduControl.Menu.Edit
