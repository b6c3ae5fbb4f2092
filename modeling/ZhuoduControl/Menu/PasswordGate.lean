import ZhuoduControl.Menu.EditorProperties
import ZhuoduControl.Menu.MenuRuns
import ZhuoduControl.Settings.GlobalInit

/-! The service menu opens only behind the password. -/

set_option autoImplicit false

namespace ZhuoduControl.Menu.Edit

open ZhuoduControl.Library
open ZhuoduControl.Data
open ZhuoduControl.Settings
open ZhuoduControl.Menu.Frame

/-- The password in force and its digits. -/
def PasswordStored (global : GlobalDef) : Prop :=
  global.password.toNat ≤ 999999 ∧ global.passwordBuf = sixDigits global.password.toNat

def OnRoot (state : MenuState) : Prop := state.frame.psMenuCurr = some 0

def ServiceNode (pointer : Option Nat) : Prop :=
  ∃ text, indexOf sMenu pointer = some text ∧ text.chars.head? = some '1'

def ServiceShown (frame : Frame PageFunc) : Prop :=
  ServiceNode frame.psMenuCurr ∨ ∃ k < frame.nSubNode, ServiceNode (frame.currNodeList k)

def passwordBytes (global : GlobalDef) : List U8 := charBytes (sixDigits global.password.toNat)

/-- The pass ends a password session on the digits of the password in force. -/
structure Unlocks (state : MenuState) (pass : MenuPass) : Prop where
  called : state.active = some .passProc
  key : pass.key = .downMenu
  digits : (getPassword pass.key state.statics).2 = some (passwordBytes pass.global)

section Compare

theorem strncmpEqual_iff {count : Nat} {left right : List U8} (leftLength : left.length = count)
    (rightLength : right.length = count) (ended : 0 ∉ right) :
    strncmpEqual count left right = true ↔ left = right := by
  induction count generalizing left right with
  | zero =>
      rw [List.length_eq_zero_iff.mp leftLength, List.length_eq_zero_iff.mp rightLength]
      exact ⟨fun _ => rfl, fun _ => rfl⟩
  | succ count ih =>
      cases left with
      | nil => cases leftLength
      | cons first left =>
          cases right with
          | nil => cases rightLength
          | cons second right =>
              have notZero : second ≠ 0 := fun zero => ended (zero ▸ List.mem_cons_self)
              have rest := ih (Nat.succ.inj leftLength) (Nat.succ.inj rightLength)
                fun member => ended (List.mem_cons_of_mem second member)
              simp only [strncmpEqual, List.headD_cons, List.tail_cons, Bool.and_eq_true,
                Bool.or_eq_true, rest, List.cons.injEq]
              constructor
              · intro equal
                obtain ⟨head, zero | same⟩ := equal
                · have heads := of_decide_eq_true head
                  exact absurd (heads.symm.trans (of_decide_eq_true zero)) notZero
                · exact ⟨of_decide_eq_true head, same⟩
              · intro same
                exact ⟨decide_eq_true same.1, .inr same.2⟩

theorem copySix_length (buffer : Memory U8) : (copySix buffer).length = 6 := by
  have short : ((buffer.load 0 6).takeWhile fun byte => byte != 0).length ≤ 6 := by
    have le := (List.takeWhile_prefix (l := buffer.load 0 6) fun byte => byte != 0).length_le
    rwa [Memory.load_length] at le
  rw [copySix, List.length_append, List.length_replicate]
  omega

theorem passwordBytes_length (global : GlobalDef) : (passwordBytes global).length = 6 := rfl

theorem digitByte_ne_zero : ∀ digit < 10, BitVec.ofNat 8 (Char.ofNat (48 + digit)).toNat ≠ 0 := by
  decide

theorem passwordBytes_ended (global : GlobalDef) : 0 ∉ passwordBytes global := by
  intro member
  obtain ⟨c, digit, zero⟩ := List.mem_map.mp member
  obtain ⟨place, _, rfl⟩ := List.mem_map.mp digit
  exact digitByte_ne_zero _ (Nat.mod_lt _ (by decide)) zero

theorem getPassword_entered {msg : KeyCode} {statics : Statics} {passWord : List U8}
    (entered : (getPassword msg statics).2 = some passWord) :
    msg = .downMenu ∧ passWord.length = 6 := by
  have key := downMenu_of_entered entered
  rw [key] at entered
  cases entered
  exact ⟨key, copySix_length _⟩

theorem accepted_iff {global : GlobalDef} (stored : PasswordStored global) {passWord : List U8}
    (length : passWord.length = 6) :
    strncmpEqual 6 passWord (charBytes global.passwordBuf) = true ↔
      passWord = passwordBytes global := by
  rw [stored.2]
  exact strncmpEqual_iff length (passwordBytes_length global) (passwordBytes_ended global)

end Compare

/-- The list is one of the subtree whose indices start with `first`. -/
def Branch (first : Char) (frame : Frame PageFunc) : Prop :=
  ∃ parent start count, Lists sMenu frame parent start count ∧ parent.head? = some first

section Branches

variable {first : Char}

theorem head_of_child {parent number : List Char} {row : MenuTree PageFunc}
    (child : IsChild parent row number) (head : parent.head? = some first) :
    row.pIndex.chars.head? = some first := by
  rw [child.1, List.head?_append, head]
  rfl

theorem head_of_parent {parent number : List Char} {row : MenuTree PageFunc}
    (child : IsChild parent row number) (head : row.pIndex.chars.head? = some first)
    (notDot : first ≠ '.') : parent.head? = some first := by
  rw [child.1] at head
  cases parent with
  | nil =>
      cases head
      exact absurd rfl notDot
  | cons other rest => exact head

theorem Branch.service {frame : Frame PageFunc} (branch : Branch first frame)
    (shown : ServiceShown frame) : first = '1' := by
  obtain ⟨parent, start, count, lists, head⟩ := branch
  have heads (k : Nat) (below : k < count) (service : ServiceNode (some (start + k))) :
      first = '1' := by
    obtain ⟨row, number, found, child, _⟩ := lists.siblings.numbered k below
    obtain ⟨text, named, one⟩ := service
    rw [indexOf, Option.bind_some, found, Option.map_some] at named
    cases named
    exact Option.some.inj ((head_of_child child head).symm.trans one)
  rcases shown with current | ⟨k, below, listed⟩
  · rw [lists.curr] at current
    exact heads _ lists.window.inside current
  · rw [lists.shows.1] at below
    rw [lists.shows.2 k below] at listed
    exact heads k below listed

theorem Branch.outcome {before after : Frame PageFunc} (nested : Nested sMenu 0 before)
    (branch : Branch first before) (notDot : first ≠ '.') (outcome : Outcome sMenu 0 before after)
    (notRoot : after.psMenuCurr ≠ some 0) : Branch first after := by
  obtain ⟨parent, start, count, lists, head⟩ := branch
  cases outcome with
  | stays same => exact ⟨parent, start, count, lists.samePlace same, head⟩
  | moves kept _ _ => exact ⟨parent, start, count, kept _ _ _ lists, head⟩
  | enters text named hasChild enters =>
      obtain ⟨below, number, entered⟩ := enters.lists
      obtain ⟨row, part, found, child⟩ := lists.row
      rw [indexOf, lists.curr, Option.bind_some, found, Option.map_some] at named
      cases named
      exact ⟨row.pIndex.chars, below, number, entered, head_of_child child head⟩
  | resumes node line nodes lines resumed nodeNotRoot =>
      obtain ⟨atRoot | ⟨other, begins, number, index, inList⟩, _⟩ :=
        nested.stacked.below nodes lines
      · exact absurd atRoot nodeNotRoot
      · refine ⟨other, begins, number, (resumed.lists other begins number index inList).2, ?_⟩
        obtain ⟨page, _⟩ | ⟨again, _, _, againLists, chain⟩ := nested.place
        · exact absurd page.2 (lists.notRoot sMenu_wellFormed)
        rw [← lists.parent_unique againLists, nodes] at chain
        obtain ⟨_, row, part, child, rfl⟩ := chain.under nodeNotRoot inList
        exact head_of_parent child head notDot
  | leaves line nodes lines page single => exact absurd page.2 notRoot

theorem Branch.turn {state next : MenuState} {pass : MenuPass} (running : Running state)
    (branch : Branch first state.frame) (notDot : first ≠ '.') (turn : Turn state pass next)
    (notRoot : ¬ OnRoot next) : Branch first next.frame := by
  obtain ⟨parent, start, count, lists, head⟩ := branch
  have offRoot := lists.notRoot sMenu_wellFormed
  cases turn with
  | list listing statics stepped =>
      obtain ⟨other, again, outcome⟩ := nodeProc_outcome sMenu_wellFormed pass.uninit pass.key
        running.nested.stacked lists
      cases Option.some.inj (again.symm.trans stepped)
      exact Branch.outcome running.nested ⟨parent, start, count, lists, head⟩ notDot outcome notRoot
  | stays func called next_eq calls =>
      rw [next_eq]
      exact ⟨parent, start, count, lists, head⟩
  | leaves func called _ next_eq calls =>
      rw [next_eq]
      exact ⟨parent, start, count, lists.samePlace (leafExit_samePlace state.frame), head⟩
  | opens _ root => exact absurd root offRoot
  | asks _ root => exact absurd root offRoot
  | accepts _ root => exact absurd root offRoot
  | refuses _ root => exact absurd root offRoot
  | resets next_eq =>
      rw [next_eq] at notRoot
      exact absurd (menuVarInit_onRootPage sMenu_wellFormed).2 notRoot

end Branches

theorem Running.not_service_on_root {state : MenuState} (running : Running state)
    (root : OnRoot state) : ¬ ServiceShown state.frame := by
  have rootIndex : ¬ ServiceNode (some 0) := by
    intro service
    obtain ⟨text, named, one⟩ := service
    cases named
    exact absurd one (by decide)
  intro shown
  rcases shown with current | ⟨k, below, listed⟩
  · rw [root] at current
    exact rootIndex current
  · rw [running.rootList root k below] at listed
    exact rootIndex listed

/-- Leaving the root, a pass opens the main menu, or the service menu on the password. -/
theorem Turn.leavesRoot {state next : MenuState} {pass : MenuPass} (running : Running state)
    (stored : PasswordStored pass.global) (root : OnRoot state) (turn : Turn state pass next)
    (notRoot : ¬ OnRoot next) :
    Branch '0' next.frame ∨ (Branch '1' next.frame ∧ Unlocks state pass) := by
  cases turn with
  | list listing _ _ =>
      obtain ⟨page, _⟩ | ⟨_, _, _, lists, _⟩ := running.nested.place
      · cases listing.symm.trans page.1
      · exact absurd root (lists.notRoot sMenu_wellFormed)
  | stays func called next_eq _ =>
      rw [next_eq] at notRoot
      exact absurd root notRoot
  | leaves func called offRoot _ _ => exact absurd root offRoot
  | opens called _ statics listing enters =>
      obtain ⟨start, count, lists⟩ := enters.lists
      exact .inl ⟨_, start, count, lists, rfl⟩
  | asks called _ next_eq =>
      rw [next_eq] at notRoot
      exact absurd root notRoot
  | accepts called _ passWord entered equal statics listing enters =>
      obtain ⟨start, count, lists⟩ := enters.lists
      obtain ⟨key, length⟩ := getPassword_entered entered
      have digits := (accepted_iff stored length).mp equal
      refine .inr ⟨⟨_, start, count, lists, rfl⟩, called, key, ?_⟩
      rw [entered, digits]
  | refuses called _ passWord entered different next_eq =>
      rw [next_eq] at notRoot
      exact absurd root notRoot
  | resets next_eq =>
      rw [next_eq] at notRoot
      exact absurd (menuVarInit_onRootPage sMenu_wellFormed).2 notRoot

/-- The list of the nodes 1.0 to 1.4 with the cursor on the first. -/
structure ServiceOpened (frame : Frame PageFunc) : Prop where
  status : frame.menuStatus = .node
  listed : (List.range frame.nSubNode).map (fun k =>
      (indexOf sMenu (frame.currNodeList k)).map IndexText.chars) =
    ["1.0", "1.1", "1.2", "1.3", "1.4"].map fun index => some index.toList
  cursor : frame.currIndex = 0 ∧ frame.currLine = 0
  curr : frame.psMenuCurr = frame.currNodeList 0

/-- The page of the root with the stacks of `before`. -/
structure RootResumed (before : Frame PageFunc) (state : MenuState) : Prop where
  page : OnRootPage 0 state.frame
  called : state.active = some .menuMainDisp
  indexPtrStack : state.frame.indexPtrStack = before.indexPtrStack
  lineStack : state.frame.lineStack = before.lineStack

/-- What `KEY_DOWN_MENU` makes of a password session. -/
structure SessionEnds (state : MenuState) (pass : MenuPass) (digits : List U8)
    (next : MenuState) : Prop where
  entered : (getPassword pass.key state.statics).2 = some digits
  stepped : menuStep state pass = some next
  right : digits = passwordBytes pass.global → ServiceOpened next.frame
  wrong : digits ≠ passwordBytes pass.global → RootResumed state.frame next

section Sessions

theorem siblings_unique {start count otherStart otherCount : Nat} {parent : List Char}
    (siblings : Siblings sMenu parent start count) (some_child : 0 < count)
    (others : Siblings sMenu parent otherStart otherCount) (other_child : 0 < otherCount) :
    start = otherStart ∧ count = otherCount := by
  have within {first size first' size' : Nat} (inner : Siblings sMenu parent first size)
      (outer : Siblings sMenu parent first' size') (k : Nat) (below : k < size) :
      first' ≤ first + k ∧ first + k < first' + size' := by
    obtain ⟨row, number, found, child, _⟩ := inner.numbered k below
    have fits := inner.fits
    exact outer.all _ (by omega) row number found child
  have lower := within siblings others 0 some_child
  have upper := within siblings others (count - 1) (by omega)
  have otherLower := within others siblings 0 other_child
  have otherUpper := within others siblings (otherCount - 1) (by omega)
  omega

theorem service_siblings : Siblings sMenu ['1'] 41 5 :=
  have listed := menuNodes_listed (['1'], 41, 5) (by decide)
  siblings_of_childRows listed.1 listed.2.1 listed.2.2

theorem serviceOpened_of_enters {before after : Frame PageFunc}
    (enters : Enters sMenu ['1'] before after) (listing : after.menuStatus = .node) :
    ServiceOpened after := by
  obtain ⟨start, count, lists⟩ := enters.lists
  obtain ⟨rfl, rfl⟩ := siblings_unique lists.siblings
    (Nat.lt_of_le_of_lt (Nat.zero_le _) lists.window.inside) service_siblings (by decide)
  have line := lists.window.top
  rw [enters.first] at line
  obtain ⟨counted, nodes⟩ := lists.shows
  refine ⟨listing, ?_, ⟨enters.first, Nat.le_zero.mp line⟩, ?_⟩
  · rw [counted]
    have rows : (List.range 5).map (fun k =>
        (indexOf sMenu (after.currNodeList k)).map IndexText.chars) =
          (List.range 5).map fun k => (indexOf sMenu (some (41 + k))).map IndexText.chars := by
      refine List.map_congr_left ?_
      intro k member
      rw [nodes k (List.mem_range.mp member)]
    rw [rows]
    decide
  · rw [lists.curr, enters.first, nodes 0 (by decide)]

theorem Running.sessionEnds {state : MenuState} {pass : MenuPass} (running : Running state)
    (stored : PasswordStored pass.global) (called : state.active = some .passProc)
    (key : pass.key = .downMenu) : ∃ digits next, SessionEnds state pass digits next := by
  obtain ⟨root, leaf, _⟩ | ⟨_, _, _, _, notPass⟩ := running.place called
  · obtain ⟨digits, entered⟩ :
        ∃ digits, (getPassword pass.key state.statics).2 = some digits := by
      rw [key]
      exact ⟨_, rfl⟩
    have accepted := accepted_iff stored (getPassword_entered entered).2
    cases equal : strncmpEqual 6 digits (charBytes pass.global.passwordBuf) with
    | true =>
        obtain ⟨next, stepped, _, _, listing, enters⟩ :=
          menuStep_accepts running leaf root called entered equal
        exact ⟨digits, next, entered, stepped, fun _ => serviceOpened_of_enters enters listing,
          fun other => absurd (accepted.mp equal) other⟩
    | false =>
        have other : digits ≠ passwordBytes pass.global := by
          intro same
          cases equal.symm.trans (accepted.mpr same)
        exact ⟨digits, _, entered, menuStep_refuses leaf called entered equal,
          fun same => absurd same other, fun _ =>
            ⟨⟨leaf, root⟩, active_jump2func_none root leaf _, rfl, rfl⟩⟩
  · exact absurd rfl notPass

end Sessions

/-- The step that left the root ended a password session on the password in force. -/
def Unlocked (passes : List MenuPass) (state : MenuState) : Prop :=
  ∃ left pass entered,
    Run.Departure menuStep OnRoot menuInit passes state left pass entered ∧ Unlocks left pass

theorem menuRun_unlocked {passes : List MenuPass} {state : MenuState}
    (stored : ∀ pass ∈ passes, PasswordStored pass.global)
    (ran : Run.run menuStep menuInit passes = some state) (running : Running state)
    (shown : ServiceShown state.frame) : Unlocked passes state := by
  have initial : OnRoot menuInit := (menuVarInit_onRootPage sMenu_wellFormed).2
  have outside : ¬ OnRoot state := fun root => running.not_service_on_root root shown
  obtain ⟨left, pass, entered, departure⟩ := Run.departure_of_run ran initial outside
  obtain ⟨before, after, split, began, ended, stays⟩ := departure.split
  obtain ⟨again, reached, leftRunning⟩ := menuRun_running before
  cases Option.some.inj (reached.symm.trans began)
  obtain ⟨nextRunning, turn⟩ := leftRunning.step departure.stepped
  have passStored : PasswordStored pass.global := by
    apply stored
    rw [split]
    exact List.mem_append_right _ List.mem_cons_self
  have kept (first : Char) (notDot : first ≠ '.') : ∀ middle label after,
      Running middle ∧ Branch first middle.frame → menuStep middle label = some after →
        ¬ OnRoot after → Running after ∧ Branch first after.frame := by
    intro middle label after held stepped notRoot
    obtain ⟨otherRunning, turn⟩ := held.1.step stepped
    exact ⟨otherRunning, held.2.turn held.1 notDot turn notRoot⟩
  rcases turn.leavesRoot leftRunning passStored departure.left_inside departure.entered_outside
    with main | ⟨service, unlocks⟩
  · obtain ⟨_, branch⟩ := Run.invariant_of_allSteps (kept '0' (by decide)) ⟨nextRunning, main⟩
      stays ended
    exact absurd (branch.service shown) (by decide)
  · exact ⟨left, pass, entered, departure, unlocks⟩

theorem service_needs_password (passes : List MenuPass)
    (stored : ∀ pass ∈ passes, PasswordStored pass.global) :
    ∃ state, Run.run menuStep menuInit passes = some state ∧
      (ServiceShown state.frame → Unlocked passes state) ∧
      (∀ pass, PasswordStored pass.global → state.active = some .passProc →
        pass.key = .downMenu → ∃ digits next, SessionEnds state pass digits next) := by
  obtain ⟨state, ran, running⟩ := menuRun_running passes
  refine ⟨state, ran, menuRun_unlocked stored ran running, ?_⟩
  intro pass passStored called key
  exact running.sessionEnds passStored called key

def lockedGlobal : GlobalDef :=
  { GlobalDef.cleared with password := 120000, passwordBuf := sixDigits 120000 }

/-- The password is first entered as 110000 and refused, then typed as it is. -/
def unlockPasses : List MenuPass :=
  [KeyCode.downMenuAndOk, .downUp, .downOk, .downUp, .downMenu,
    .downMenuAndOk, .downUp, .downOk, .downUp, .downUp, .downMenu].map fun key =>
      ⟨key, lockedGlobal, [], .nan, 0, false⟩

theorem lockedGlobal_stored : PasswordStored lockedGlobal := ⟨by decide, rfl⟩

theorem service_needs_password_unlockPasses :
    ∃ state, Run.run menuStep menuInit unlockPasses = some state ∧ ServiceShown state.frame ∧
      Unlocked unlockPasses state := by
  have stored : ∀ pass ∈ unlockPasses, PasswordStored pass.global := by
    intro pass member
    obtain ⟨key, _, rfl⟩ := List.mem_map.mp member
    exact lockedGlobal_stored
  obtain ⟨state, ran, unlocked, _⟩ := service_needs_password unlockPasses stored
  have seen : (Run.run menuStep menuInit unlockPasses).map (fun state => state.frame.psMenuCurr) =
      some (some 41) := by decide +kernel
  rw [ran, Option.map_some] at seen
  have shown : ServiceShown state.frame := by
    refine .inl ⟨⟨['1', '.', '0'], by decide⟩, ?_, rfl⟩
    rw [Option.some.inj seen]
    rfl
  exact ⟨state, ran, shown, unlocked shown⟩

end ZhuoduControl.Menu.Edit
