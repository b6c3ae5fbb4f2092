import ZhuoduControl.Menu.FocusRules

/-! The calls in which a page only edits the box that it designates. -/

set_option autoImplicit false

namespace ZhuoduControl.Menu.BoxPages

open ZhuoduControl.Library
open ZhuoduControl.Library.DecimalText
open ZhuoduControl.Data
open ZhuoduControl.Menu
open ZhuoduControl.Menu.Box
open ZhuoduControl.Menu.Frame

/-- The same box, perhaps in another place or hidden. -/
def Placed (box placed : NumberBox) : Prop :=
  ∃ y isShow, placed = { box with y := y, isShow := isShow }

/-- The page has no use for the key. -/
structure Quiet (page : BoxPage) (index : Nat) (before : BoxPageStatics) (input : PageInput) :
    Prop where
  settled : Settled page before
  entered : before.setStat ≠ 0
  designates : designated page before = some (.box index)
  key : input.msg = .none ∨ input.msg = .downOk ∨
    (input.msg = .downMenu ∧ before.stat (.box index) ≠ .focused)
  stays : input.msg = .downMenu → ¬ (page = .signal ∧ index = 0) ∧
    ¬ (page = .canbiZhuodu ∧ before.stat (.box index) = .saving)

structure EditsOnly (clib : Clib) (index : Nat) (before : BoxPageStatics) (input : PageInput)
    (pass : PagePass) : Prop where
  ops : pass.ops = []
  exits : pass.exits = []
  setStat : pass.statics.setStat = before.setStat
  currSelect : pass.statics.currSelect = before.currSelect
  box : Placed ((before.box index).edit clib input.msg (input.uninit index)) (pass.statics.box index)

variable {clib : Clib} {page : BoxPage} {index : Nat} {before : BoxPageStatics} {input : PageInput}

theorem Placed.refl (box : NumberBox) : Placed box box := ⟨box.y, box.isShow, rfl⟩

theorem save_placed (clib : Clib) (uninit : Number) (box : NumberBox) (y : Nat) (isShow : Bool) :
    NumberBox.save clib uninit { box with y := y, isShow := isShow } =
      { box.save clib uninit with y := y, isShow := isShow } := by
  obtain ⟨⟨_, _, _, _, dataType, _, _⟩, _⟩ := box
  unfold NumberBox.save NumberBox.text
  dsimp only
  split
  · split
    · cases dataType <;> rfl
    · rfl
  · rfl

theorem edit_placed (msg : KeyCode) (uninit : Number) (box : NumberBox) (y : Nat) (isShow : Bool) :
    NumberBox.edit clib msg uninit { box with y := y, isShow := isShow } =
      { box.edit clib msg uninit with y := y, isShow := isShow } := by
  have saved := save_placed clib uninit box y isShow
  obtain ⟨config, isReadonly, _, boxStat, _⟩ := box
  unfold NumberBox.edit
  cases boxStat with
  | unfocused => rfl
  | focused =>
      dsimp only
      split <;> rfl
  | modifing => cases msg <;> rfl
  | saving =>
      dsimp only at saved ⊢
      rw [saved]
      cases msg <;> rfl

theorem Placed.edit {box placed : NumberBox} (same : Placed box placed) (msg : KeyCode)
    (uninit : Number) : Placed (box.edit clib msg uninit) (placed.edit clib msg uninit) := by
  obtain ⟨y, isShow, rfl⟩ := same
  exact ⟨y, isShow, edit_placed msg uninit box y isShow⟩

theorem Placed.trans {box middle placed : NumberBox} (first : Placed box middle)
    (second : Placed middle placed) : Placed box placed := by
  obtain ⟨_, _, rfl⟩ := first
  obtain ⟨y, isShow, rfl⟩ := second
  exact ⟨y, isShow, rfl⟩

section Switches

theorem Quiet.notMenu (quiet : Quiet page index before input)
    (focused : before.stat (.box index) = .focused) : input.msg ≠ .downMenu := by
  intro menu
  rcases quiet.key with key | key | ⟨_, unfocused⟩
  · rw [menu] at key
    cases key
  · rw [menu] at key
    cases key
  · exact unfocused focused

theorem Quiet.notArrow (quiet : Quiet page index before input) :
    input.msg ≠ .downDown ∧ input.msg ≠ .downUp := by
  rcases quiet.key with key | key | ⟨key, _⟩
  · simp [key]
  · simp [key]
  · simp [key]

theorem twoBoxes_states (two : page = .coeffAB ∨ page = .signal)
    (designates : designated page before = some (.box index)) :
    (before.setStat = 2 ∧ index = 0) ∨ (before.setStat = 3 ∧ index = 1) := by
  unfold designated at designates
  split at designates <;> simp_all

theorem coeffABSwitch_quiet (quiet : Quiet .coeffAB index before input) :
    coeffABSwitch input before = .breaks before.stay := by
  obtain ⟨notDown, _⟩ := quiet.notArrow
  have menu := quiet.notMenu
  rcases twoBoxes_states (.inl rfl) quiet.designates with ⟨state, rfl⟩ | ⟨state, rfl⟩
  · simp [coeffABSwitch, state, notDown]
  · simp only [coeffABSwitch, state, if_neg notDown]
    split
    · next focused => rw [if_neg (menu focused)]
    · rfl

theorem signalSwitch_quiet (quiet : Quiet .signal index before input) :
    signalSwitch input before = .breaks before.stay := by
  obtain ⟨notDown, _⟩ := quiet.notArrow
  have menu := quiet.notMenu
  have states := twoBoxes_states (.inr rfl) quiet.designates
  rcases states with ⟨state, rfl⟩ | ⟨state, rfl⟩
  · have unfocused := quiet.settled.focus.others quiet.designates (.box 1) (by decide)
    have stays : input.msg ≠ .downMenu := fun key => (quiet.stays key).1 ⟨rfl, rfl⟩
    simp [signalSwitch, signalCaseThree, state, notDown, stays, unfocused]
  · simp only [signalSwitch, signalCaseThree, state, if_neg notDown]
    split
    · next focused => rw [if_neg (menu focused)]
    · rfl

theorem zeroCaliSwitch_quiet (quiet : Quiet .zeroCali index before input) :
    zeroCaliSwitch input before = .breaks before.stay := by
  obtain ⟨notDown, _⟩ := quiet.notArrow
  have menu := quiet.notMenu
  obtain ⟨state, rfl⟩ : before.setStat = 2 ∧ index = 0 := by
    have designates := quiet.designates
    unfold designated at designates
    split at designates <;> simp_all
  simp only [zeroCaliSwitch, state]
  rw [if_neg fun moves => notDown moves.2, if_neg fun leaves => menu leaves.1 leaves.2]

theorem fullCaliSwitch_quiet (quiet : Quiet .fullCali index before input) :
    fullCaliSwitch input before = .breaks before.stay := by
  obtain ⟨notDown, notUp⟩ := quiet.notArrow
  have menu := quiet.notMenu
  obtain ⟨state, rfl⟩ : before.setStat = 1 ∧ index = 0 := by
    have designates := quiet.designates
    unfold designated at designates
    split at designates <;> simp_all
  simp only [fullCaliSwitch, state]
  rw [if_neg fun leaves => menu leaves.2 leaves.1, if_neg fun moves => moves.1.elim notDown notUp]

theorem linearCaliSwitch_quiet (quiet : Quiet .linearCali index before input) :
    linearCaliSwitch input before = .breaks before.stay := by
  obtain ⟨notDown, notUp⟩ := quiet.notArrow
  have menu := quiet.notMenu
  obtain ⟨state, rfl⟩ : before.setStat = 2 ∧ index = before.currSelect := by
    have designates := quiet.designates
    unfold designated at designates
    split at designates <;> simp_all
  simp only [linearCaliSwitch, linearCaliCaseTwo, state]
  rw [if_neg fun moves => notDown moves.1, if_neg fun moves => notUp moves.1,
    if_neg fun leaves => menu leaves.1 leaves.2]
  rfl

end Switches

section Calls

theorem update_placed {box : Nat → NumberBox} {target : Nat} {changed : NumberBox}
    (index : Nat) (same : Placed (box target) changed) :
    Placed (box index) (Function.update box target changed index) := by
  by_cases here : index = target
  · subst here
    rw [Function.update_self]
    exact same
  · rw [Function.update_of_ne here]
    exact .refl _

theorem coeffABShow_placed (statics : BoxPageStatics) (index : Nat) :
    Placed (statics.box index) ((coeffABShow statics).box index) := by
  have shown (target : Nat) (isShow : Bool) :
      Placed (statics.box target) { statics.box target with isShow := isShow } :=
    ⟨(statics.box target).y, isShow, rfl⟩
  unfold coeffABShow
  dsimp only
  split
  · exact update_placed index (shown 1 false)
  · split
    · exact update_placed index (shown 0 false)
    · exact (update_placed index (shown 0 true)).trans (update_placed index (shown 1 true))

theorem linearCaliPlace_placed (currSelect index : Nat) (box : NumberBox) :
    Placed box (linearCaliPlace currSelect index box) := by
  unfold linearCaliPlace
  split
  · split
    · exact ⟨_, _, rfl⟩
    · exact ⟨_, _, rfl⟩
  · split
    · exact ⟨_, _, rfl⟩
    · exact ⟨_, _, rfl⟩

theorem linearCaliShow_placed (statics : BoxPageStatics) (index : Nat) :
    Placed (statics.box index) ((linearCaliShow statics).box index) := by
  have placed (index : Nat) : Placed (statics.box index)
      (if index < 8 then linearCaliPlace statics.currSelect index (statics.box index)
        else statics.box index) := by
    split
    · exact linearCaliPlace_placed _ _ _
    · exact .refl _
  unfold linearCaliShow
  dsimp only
  split
  · exact placed index
  · refine (placed index).trans ?_
    dsimp only
    refine update_placed index ?_
    exact ⟨_, false, rfl⟩

theorem editBoxes_box {count : Nat} (below : index < count) :
    (before.editBoxes clib input count).box index =
      (before.box index).edit clib input.msg (input.uninit index) := if_pos below

theorem btnProc_unfocused (msg : KeyCode) (btnEvent : List MenuOp) :
    btnProc msg .unfocused btnEvent = [] := if_neg fun pressed => nomatch pressed.1

theorem singleBox_index (single : page = .canbiZhuodu ∨ page = .zeroCali ∨ page = .fullCali)
    (designates : designated page before = some (.box index)) : index = 0 := by
  unfold designated at designates
  split at designates <;> simp_all

theorem canbiZhuodu_quiet (quiet : Quiet .canbiZhuodu index before input) :
    menuCanbiZhuodu clib input before = (before.editBoxes clib input 1).stay := by
  obtain rfl := singleBox_index (.inl rfl) quiet.designates
  unfold menuCanbiZhuodu
  rw [if_neg quiet.entered]
  refine if_neg ?_
  rintro ⟨key, focused⟩
  have edited := (before.box 0).edited clib input.msg (input.uninit 0)
  have stat : ((before.box 0).edit clib input.msg (input.uninit 0)).boxStat = .focused := by
    rw [← editBoxes_box (by decide : 0 < 1)]
    exact focused
  rw [key] at edited stat
  generalize (before.box 0).edit clib .downMenu (input.uninit 0) = after at edited stat
  cases edited with
  | unfocused closed => exact absurd (closed.symm.trans stat) nofun
  | focused open_ => exact quiet.notMenu open_ key
  | asks => cases stat
  | idles modifing other => exact other.2.2.1 rfl
  | saves saving => exact (quiet.stays key).2 ⟨rfl, saving⟩
  | waits saving other => exact other.1 rfl

theorem Quiet.editsOnly (clib : Clib) (quiet : Quiet page index before input) :
    EditsOnly clib index before input (page.call clib input before) := by
  have edits {count : Nat} (below : index < count) :
      Placed ((before.box index).edit clib input.msg (input.uninit index))
        ((before.editBoxes clib input count).box index) := by
    rw [editBoxes_box below]
    exact .refl _
  have unfocused (button : BoxButton) : before.status button = .unfocused :=
    quiet.settled.focus.others quiet.designates (.btn button) nofun
  cases page with
  | coeffAB =>
      have below : index < 2 := by
        rcases twoBoxes_states (.inl rfl) quiet.designates with ⟨_, rfl⟩ | ⟨_, rfl⟩ <;> decide
      have redrawn := coeffABShow_redrawn (before.editBoxes clib input 2)
      simp only [BoxPage.call, menuCoeffABSetup, coeffABSwitch_quiet quiet, Flow.finish]
      exact ⟨rfl, rfl, redrawn.setStat, redrawn.currSelect,
        (edits below).trans (coeffABShow_placed _ index)⟩
  | signal =>
      have below : index < 2 := by
        rcases twoBoxes_states (.inr rfl) quiet.designates with ⟨_, rfl⟩ | ⟨_, rfl⟩ <;> decide
      simp only [BoxPage.call, menuSignalSetup, signalSwitch_quiet quiet, Flow.finish]
      exact ⟨rfl, rfl, rfl, rfl, edits below⟩
  | canbiZhuodu =>
      obtain rfl := singleBox_index (.inl rfl) quiet.designates
      simp only [BoxPage.call, canbiZhuodu_quiet quiet]
      exact ⟨rfl, rfl, rfl, rfl, edits (by decide)⟩
  | zeroCali =>
      obtain rfl := singleBox_index (.inr (.inl rfl)) quiet.designates
      simp only [BoxPage.call, menuZeroCali, zeroCaliSwitch_quiet quiet, Flow.finish]
      refine ⟨?_, rfl, rfl, rfl, edits (by decide)⟩
      show [] ++ btnProc _ (before.status .btnSet) _ ++ btnProc _ (before.status .btnConfirm) _ = []
      rw [unfocused, unfocused, btnProc_unfocused, btnProc_unfocused]
      rfl
  | fullCali =>
      obtain rfl := singleBox_index (.inr (.inr rfl)) quiet.designates
      simp only [BoxPage.call, menuFullCali, fullCaliSwitch_quiet quiet, Flow.finish]
      refine ⟨?_, rfl, rfl, rfl, edits (by decide)⟩
      show [] ++ btnProc _ (before.status .btnConfirm) _ = []
      rw [unfocused, btnProc_unfocused]
      rfl
  | linearCali =>
      have below : index < 8 := by
        have selected := quiet.settled.focus.selected
        have designates := quiet.designates
        unfold designated at designates
        split at designates <;> simp_all
      have redrawn := linearCaliShow_redrawn before
      simp only [BoxPage.call, menuLinearCali, linearCaliSwitch_quiet quiet, Flow.finish]
      refine ⟨rfl, rfl, redrawn.setStat, redrawn.currSelect, ?_⟩
      show Placed _ (((linearCaliShow before).editBoxes clib input 8).box index)
      rw [editBoxes_box below]
      exact (linearCaliShow_placed before index).edit _ _

theorem EditsOnly.designates {pass : PagePass} (page : BoxPage)
    (edits : EditsOnly clib index before input pass) :
    designated page pass.statics = designated page before :=
  designated_congr edits.setStat edits.currSelect

/-- The page with nothing but a box sends what a save has taken. -/
theorem canbiZhuodu_saves (clib : Clib) (entered : before.setStat ≠ 0) (key : input.msg = .downMenu)
    (saving : (before.box 0).boxStat = .saving) :
    (BoxPage.canbiZhuodu.call clib input before).ops =
        Menu.menuCanbiZhuodu ((before.box 0).save clib (input.uninit 0)).setFloat ∧
      (BoxPage.canbiZhuodu.call clib input before).statics.box 0 =
        { (before.box 0).save clib (input.uninit 0) with boxStat := .focused } := by
  have saved : (before.editBoxes clib input 1).box 0 =
      { (before.box 0).save clib (input.uninit 0) with boxStat := .focused } := by
    rw [editBoxes_box (by decide), key]
    unfold NumberBox.edit
    rw [saving]
  have focused : (before.editBoxes clib input 1).stat (.box 0) = .focused :=
    congrArg NumberBox.boxStat saved
  have called : BoxPage.canbiZhuodu.call clib input before =
      ((before.editBoxes clib input 1).goTo 0).leafExit
        ((Commit.canbiZhuodu ((before.editBoxes clib input 1).box 0).setFloat).ops
          input.zhuodu) := by
    simp only [BoxPage.call, menuCanbiZhuodu, if_neg entered]
    exact if_pos ⟨key, focused⟩
  rw [called]
  refine ⟨?_, saved⟩
  show Menu.menuCanbiZhuodu ((before.editBoxes clib input 1).box 0).setFloat = _
  rw [saved]

/-- The first box of `menu_signal_setup` is left as it was before it was edited. -/
theorem signal_leaves (clib : Clib) (state : before.setStat = 2) (key : input.msg = .downMenu) :
    (BoxPage.signal.call clib input before).ops = [] ∧
      (BoxPage.signal.call clib input before).exits ≠ [] ∧
      shownBits ((BoxPage.signal.call clib input before).statics.box 0) =
        shownBits (before.box 0) := by
  have switched : signalSwitch input before =
      .breaks ((before.reset [.box 0, .box 1]).leafExit []) := by
    simp [signalSwitch, state, key]
  simp only [BoxPage.call, menuSignalSetup, switched, Flow.finish]
  refine ⟨rfl, List.cons_ne_nil _ _, ?_⟩
  show shownBits (((before.reset [.box 0, .box 1]).editBoxes clib input 2).box 0) = _
  rw [editBoxes_box (by decide)]
  rfl

end Calls

end ZhuoduControl.Menu.BoxPages
