import ZhuoduControl.Menu.FocusRules

/-! The boxes for integers from the startup on: which of them are saved, as what their page has
set them up, and what the page then does with their numbers. -/

set_option autoImplicit false

namespace ZhuoduControl.Menu.BoxPages

open ZhuoduControl.Library
open ZhuoduControl.Library.DecimalText
open ZhuoduControl.Data
open ZhuoduControl.Menu.Box
open ZhuoduControl.Menu.Frame

/-- What calls of a page leave of its statics, from the startup on. -/
def Reached (clib : Clib) (page : BoxPage) (statics : BoxPageStatics) : Prop :=
  ∃ inputs, Run.run (pageStep clib page) blankPage inputs = some statics

variable {clib : Clib} {input : PageInput} {page : BoxPage} {statics before : BoxPageStatics}

theorem Reached.invariant {invariant : BoxPageStatics → Prop} (initial : invariant blankPage)
    (preserved : ∀ before input, invariant before →
      invariant (page.call clib input before).statics)
    (reached : Reached clib page statics) : invariant statics := by
  obtain ⟨inputs, ran⟩ := reached
  refine Run.invariant_of_run ?_ initial ran
  intro before input after held stepped
  cases Option.some.inj stepped
  exact preserved before input held

theorem Reached.settled (reached : Reached clib page statics) : Settled page statics :=
  reached.invariant blankPage_unopened.settled fun _ _ => call_settled

/-- A box that is edited is the one that has the focus. -/
theorem Reached.edited (reached : Reached clib page statics) {index : Nat}
    (saving : (statics.box index).boxStat = .saving) :
    statics.setStat ≠ 0 ∧ designated page statics = some (.box index) := by
  have settled := reached.settled
  constructor
  · intro closed
    have idle := settled.closed closed index
    rw [(editing_iff index).mpr (.inr saving)] at idle
    cases idle
  · refine settled.focus.only (.box index) ?_
    change (statics.box index).boxStat ≠ .unfocused
    rw [saving]
    exact nofun

/-- The statics after calls from the startup on. -/
def called (clib : Clib) (page : BoxPage) (inputs : List PageInput) : BoxPageStatics :=
  inputs.foldl (fun left input => (page.call clib input left).statics) blankPage

theorem reached_called (clib : Clib) (page : BoxPage) (inputs : List PageInput) :
    Reached clib page (called clib page inputs) := by
  have ran (start : BoxPageStatics) : Run.run (pageStep clib page) start inputs =
      some (inputs.foldl (fun left input => (page.call clib input left).statics) start) := by
    induction inputs generalizing start with
    | nil => rfl
    | cons input rest ih => exact ih _
  exact ⟨inputs, ran blankPage⟩

section Designated

variable {item : PageItem}

theorem signal_designated (designates : designated .signal statics = some item) :
    statics.setStat = 2 ∧ item = .box 0 ∨ statics.setStat = 3 ∧ item = .box 1 ∨
      statics.setStat = 4 ∧ item = .btn .btnConfirm := by
  unfold designated at designates
  split at designates
  all_goals simp_all

theorem zeroCali_designated (designates : designated .zeroCali statics = some item) :
    statics.setStat = 2 ∧ item = .box 0 ∨ statics.setStat = 3 ∧ item = .btn .btnSet ∨
      statics.setStat = 4 ∧ item = .btn .btnConfirm := by
  unfold designated at designates
  split at designates
  all_goals simp_all

end Designated

section Configurations

variable (item : PageItem) (stat : BoxStat) (index : Nat)

@[simp] theorem config_goTo (setStat : Nat) :
    ((statics.goTo setStat).box index).toBoxConfig = (statics.box index).toBoxConfig := rfl

@[simp] theorem config_put :
    ((statics.put item stat).box index).toBoxConfig = (statics.box index).toBoxConfig := by
  cases item with
  | box other =>
      by_cases same : index = other
      · simp [BoxPageStatics.put, same]
      · simp [BoxPageStatics.put, same]
  | btn button => rfl

@[simp] theorem config_reset (items : List PageItem) :
    ((statics.reset items).box index).toBoxConfig = (statics.box index).toBoxConfig := by
  have kept : ∀ statics : BoxPageStatics,
      ((items.foldl (fun left item => left.put item .unfocused) statics).box index).toBoxConfig =
        (statics.box index).toBoxConfig := by
    induction items with
    | nil => exact fun _ => rfl
    | cons item rest ih => exact fun statics => (ih _).trans (config_put item .unfocused index)
  exact kept (statics.goTo 0)

theorem config_editBoxes (count : Nat) :
    ((statics.editBoxes clib input count).box index).toBoxConfig =
      (statics.box index).toBoxConfig := by
  unfold BoxPageStatics.editBoxes
  dsimp only
  split
  · exact ((statics.box index).edited clib input.msg (input.uninit index)).config
  · rfl

theorem config_firstCall {configs : List BoxConfig} {config : BoxConfig} {numbers : Nat → Option U32}
    (listed : configs[index]? = some config) :
    ((statics.firstCall configs stat numbers).box index).toBoxConfig = config := by
  unfold BoxPageStatics.firstCall
  simp only [listed]
  cases numbers index with
  | none => rfl
  | some bits =>
      cases kind : config.dataType with
      | integer => rfl
      | float => rfl

theorem signalSwitch_config (inside : before.setStat ≠ 0) :
    ((signalSwitch input before).pass.statics.box index).toBoxConfig =
      (before.box index).toBoxConfig := by
  unfold signalSwitch signalCaseThree
  repeat' split
  all_goals first
    | exact absurd ‹_› inside
    | simp [Flow.pass, BoxPageStatics.stay, BoxPageStatics.leafExit]

theorem zeroCaliSwitch_config (inside : before.setStat ≠ 0) :
    ((zeroCaliSwitch input before).pass.statics.box index).toBoxConfig =
      (before.box index).toBoxConfig := by
  unfold zeroCaliSwitch
  repeat' split
  all_goals first
    | exact absurd ‹_› inside
    | simp [Flow.pass, BoxPageStatics.stay, BoxPageStatics.leafExit]

theorem Flow.finish_config {flow : Flow} {tail : PagePass → PagePass}
    (switched : (flow.pass.statics.box index).toBoxConfig = (before.box index).toBoxConfig)
    (ends : ∀ pass, ((tail pass).statics.box index).toBoxConfig =
      (pass.statics.box index).toBoxConfig) :
    ((flow.finish tail).statics.box index).toBoxConfig = (before.box index).toBoxConfig := by
  cases flow with
  | returns pass => exact switched
  | breaks pass => exact (ends pass).trans switched

end Configurations

/-- The pages with boxes for integers. -/
def integerPage : BoxPage → Bool
  | .signal => true
  | .zeroCali => true
  | _ => false

theorem call_config (integers : integerPage page = true) (inside : before.setStat ≠ 0)
    (index : Nat) : ((page.call clib input before).statics.box index).toBoxConfig =
      (before.box index).toBoxConfig := by
  cases page with
  | signal =>
      exact Flow.finish_config index (signalSwitch_config index inside) fun _ =>
        config_editBoxes index 2
  | zeroCali =>
      exact Flow.finish_config index (zeroCaliSwitch_config index inside) fun _ =>
        config_editBoxes index 1
  | coeffAB => cases integers
  | canbiZhuodu => cases integers
  | fullCali => cases integers
  | linearCali => cases integers

/-- A page that is open has set up its boxes. -/
theorem Reached.config (reached : Reached clib page statics) (integers : integerPage page = true)
    {index : Nat} {config : BoxConfig} (listed : page.configs[index]? = some config)
    (inside : statics.setStat ≠ 0) : (statics.box index).toBoxConfig = config := by
  have setUp : statics.setStat ≠ 0 → (statics.box index).toBoxConfig = config := by
    refine @Reached.invariant clib page statics (fun statics =>
      statics.setStat ≠ 0 → (statics.box index).toBoxConfig = config) ?_ ?_ reached
    · exact fun inside => absurd rfl inside
    · intro before input held _
      by_cases closed : before.setStat = 0
      · obtain ⟨stat, entered⟩ := @call_closed clib input page before closed
        rw [entered]
        exact config_firstCall stat index listed
      · rw [call_config integers closed]
        exact held closed
  exact setUp inside

section Target

/-- `KEY_DOWN_MENU` comes first to a box that is edited. -/
theorem saving_after {msg : KeyCode} {uninit : Number} {box : NumberBox}
    (saving : (box.edit clib msg uninit).boxStat = .saving) :
    box.boxStat = .saving ∨ box.boxStat = .modifing ∧ msg = .downMenu := by
  have edited := box.edited clib msg uninit
  generalize box.edit clib msg uninit = result at edited saving
  cases edited with
  | unfocused stat => exact absurd (stat.symm.trans saving) nofun
  | focused stat closed => exact absurd (stat.symm.trans saving) nofun
  | opens stat writable => cases saving
  | up stat => exact absurd (stat.symm.trans saving) nofun
  | down stat => exact absurd (stat.symm.trans saving) nofun
  | asks stat => exact .inr ⟨stat, rfl⟩
  | moves stat => exact absurd (stat.symm.trans saving) nofun
  | idles stat other => exact .inl saving
  | saves stat => cases saving
  | cancels stat => cases saving
  | waits stat other => exact .inl stat

/-- What the `switch` of `menu_signal_setup` leaves to its first box. -/
def TargetKept (input : PageInput) : Flow → Prop
  | .returns pass => (pass.statics.box 0).boxStat ≠ .saving
  | .breaks pass => (pass.statics.box 0).boxStat = .unfocused ∨
      (pass.statics.box 0).boxStat ≠ .saving ∧ input.msg ≠ .downMenu

theorem signalCaseThree_target (unsaved : before.stat (.box 0) ≠ .saving)
    (other : before.stat (.box 0) = .unfocused ∨ input.msg ≠ .downMenu) :
    TargetKept input (signalCaseThree input before) := by
  have stays : before.stat (.box 0) = .unfocused ∨
      before.stat (.box 0) ≠ .saving ∧ input.msg ≠ .downMenu :=
    other.imp_right fun key => ⟨unsaved, key⟩
  unfold signalCaseThree
  split
  · split
    · have kept : (((before.goTo 4).put (.box 1) .unfocused).put (.btn .btnConfirm)
          .focused).stat (.box 0) ≠ .saving := by simpa using unsaved
      exact kept
    · split
      · have quiet : (before.reset twoBoxes).stat (.box 0) = .unfocused := by simp [twoBoxes]
        exact .inl quiet
      · exact stays
  · exact stays

theorem signalSwitch_target (settled : Settled .signal before)
    (unsaved : before.stat (.box 0) ≠ .saving) : TargetKept input (signalSwitch input before) := by
  have focus := settled.focus
  have quiet (state : before.setStat ≠ 2) : before.stat (.box 0) = .unfocused := by
    by_contra focused
    rcases signal_designated (focus.only _ focused) with ⟨second, _⟩ | ⟨_, other⟩ | ⟨_, other⟩
    · exact state second
    · cases other
    · cases other
  unfold signalSwitch
  split
  · next stat =>
      have entered : (BoxPage.signal.enter input before .unfocused).statics.stat (.box 0) =
          .unfocused := rfl
      change (BoxPage.signal.enter input before .unfocused).statics.stat (.box 0) ≠ .saving
      rw [entered]
      exact nofun
  · next stat =>
      have unfocused := quiet (by omega)
      split
      · exact .inl unfocused
      · split
        · have taken : ((before.goTo 2).put (.box 0) .focused).stat (.box 0) = .focused := by simp
          change ((before.goTo 2).put (.box 0) .focused).stat (.box 0) ≠ .saving
          rw [taken]
          exact nofun
        · exact .inl unfocused
  · next stat =>
      split
      · have passed : (((before.goTo 3).put (.box 0) .unfocused).put (.box 1) .focused).stat
            (.box 0) = .unfocused := by simp
        change (((before.goTo 3).put (.box 0) .unfocused).put (.box 1) .focused).stat
          (.box 0) ≠ .saving
        rw [passed]
        exact nofun
      · split
        · have left : (before.reset [.box 0, .box 1]).stat (.box 0) = .unfocused := by simp
          exact .inl left
        · next key => exact signalCaseThree_target unsaved (.inr key)
  · next stat => exact signalCaseThree_target unsaved (.inl (quiet (by omega)))
  · next stat =>
      have unfocused := quiet (by omega)
      have left : (before.reset twoBoxes).stat (.box 0) = .unfocused := by simp [twoBoxes]
      split
      · exact .inl left
      · split
        · exact .inl left
        · exact .inl unfocused
  · next free first second third fourth => exact .inl (quiet second)

/-- `KEY_DOWN_MENU` leaves the page as long as its first box has the focus, so that the target
is never saved. -/
theorem Reached.target_unsaved (reached : Reached clib .signal statics) :
    (statics.box 0).boxStat ≠ .saving := by
  have both : Settled .signal statics ∧ statics.stat (.box 0) ≠ .saving := by
    refine @Reached.invariant clib .signal statics (fun statics =>
      Settled .signal statics ∧ statics.stat (.box 0) ≠ .saving)
      ⟨blankPage_unopened.settled, nofun⟩ ?_ reached
    rintro before input ⟨settled, unsaved⟩
    refine ⟨call_settled settled, ?_⟩
    have kept := @signalSwitch_target input before settled unsaved
    change ((menuSignalSetup clib input before).statics.box 0).boxStat ≠ .saving
    unfold menuSignalSetup
    cases switched : signalSwitch input before with
    | returns pass =>
        rw [switched] at kept
        exact kept
    | breaks pass =>
        rw [switched] at kept
        intro saving
        have edited := @saving_after clib input.msg (input.uninit 0) (pass.statics.box 0) saving
        rcases edited with already | ⟨modifing, key⟩
        · rcases kept with unfocused | ⟨unsaved, _⟩
          · cases unfocused.symm.trans already
          · exact unsaved already
        · rcases kept with unfocused | ⟨_, other⟩
          · cases unfocused.symm.trans modifing
          · exact other key
  exact both.2

end Target

section Saves

/-- In `SAVING` the range of the fluctuation is saved as `set_number_box` does. -/
theorem Reached.range_saved (reached : Reached clib .signal statics)
    (saving : (statics.box 1).boxStat = .saving) (key : input.msg = .downMenu) :
    (BoxPage.signal.call clib input statics).statics.box 1 =
      { (statics.box 1).save clib (input.uninit 1) with boxStat := .focused } := by
  obtain ⟨_, designates⟩ := reached.edited saving
  have state : statics.setStat = 3 := by
    rcases signal_designated designates with ⟨_, other⟩ | ⟨third, _⟩ | ⟨_, other⟩
    · cases other
    · exact third
    · cases other
  have busy : ¬ statics.stat (.box 1) = .focused := by
    change ¬ (statics.box 1).boxStat = .focused
    rw [saving]
    exact nofun
  have switched : signalSwitch input statics = .breaks statics.stay := by
    simp only [signalSwitch, state, signalCaseThree, if_neg busy]
  have called : (BoxPage.signal.call clib input statics).statics =
      statics.editBoxes clib input 2 := by
    simp only [BoxPage.call, menuSignalSetup, switched, Flow.finish]
    rfl
  rw [called]
  change (statics.box 1).edit clib input.msg (input.uninit 1) = _
  unfold NumberBox.edit
  rw [saving, key]

/-- So is the target of `menu_zero_cali`. -/
theorem Reached.zero_saved (reached : Reached clib .zeroCali statics)
    (saving : (statics.box 0).boxStat = .saving) (key : input.msg = .downMenu) :
    (BoxPage.zeroCali.call clib input statics).statics.box 0 =
      { (statics.box 0).save clib (input.uninit 0) with boxStat := .focused } := by
  obtain ⟨_, designates⟩ := reached.edited saving
  have state : statics.setStat = 2 := by
    rcases zeroCali_designated designates with ⟨second, _⟩ | ⟨_, other⟩ | ⟨_, other⟩
    · exact second
    · cases other
    · cases other
  have busy : ¬ statics.stat (.box 0) = .focused := by
    change ¬ (statics.box 0).boxStat = .focused
    rw [saving]
    exact nofun
  have switched : zeroCaliSwitch input statics = .breaks statics.stay := by
    simp only [zeroCaliSwitch, state, busy, false_and, if_false]
  have called : (BoxPage.zeroCali.call clib input statics).statics =
      statics.editBoxes clib input 1 := by
    simp only [BoxPage.call, menuZeroCali, switched, Flow.finish]
    rfl
  rw [called]
  change (statics.box 0).edit clib input.msg (input.uninit 0) = _
  unfold NumberBox.edit
  rw [saving, key]

end Saves

section Commits

theorem signal_commits (state : statics.setStat = 4) (key : input.msg = .downOk) :
    (BoxPage.signal.call clib input statics).ops =
      (Commit.signalSetup (statics.box 0).setInteger (statics.box 1).setInteger).ops
        input.zhuodu := by
  have other : input.msg ≠ .downMenu := by
    rw [key]
    exact nofun
  have switched : signalSwitch input statics = .breaks ((statics.reset twoBoxes).leafExit
      ((Commit.signalSetup (statics.box 0).setInteger (statics.box 1).setInteger).ops
        input.zhuodu)) := by
    simp only [signalSwitch, state, if_neg other, if_pos key]
  simp only [BoxPage.call, menuSignalSetup, switched, Flow.finish]
  rfl

/-- In state 3 `btn_set` has the focus. -/
def SetFocused (statics : BoxPageStatics) : Prop :=
  statics.setStat = 3 → statics.status .btnSet = .focused

theorem zeroCaliSwitch_setFocused (held : SetFocused before) :
    SetFocused (zeroCaliSwitch input before).pass.statics := by
  have entered {next : BoxPageStatics} (state : next.setStat ≠ 3) : SetFocused next :=
    fun third => absurd third state
  have left (items : List PageItem) : SetFocused (before.reset items) :=
    entered (by simp)
  unfold zeroCaliSwitch
  split
  · exact entered nofun
  · split
    · exact entered nofun
    · split
      · exact entered nofun
      · exact held
  · split
    · intro _
      rfl
    · split
      · exact left _
      · exact held
  · split
    · exact entered nofun
    · split
      · exact left _
      · exact held
  · split
    · exact left _
    · split
      · exact left _
      · exact held
  · exact held

theorem Reached.setFocused (reached : Reached clib .zeroCali statics) : SetFocused statics := by
  refine reached.invariant nofun ?_
  intro before input held
  have kept := @zeroCaliSwitch_setFocused input before held
  change SetFocused (menuZeroCali clib input before).statics
  unfold menuZeroCali
  cases switched : zeroCaliSwitch input before with
  | returns pass =>
      rw [switched] at kept
      exact kept
  | breaks pass =>
      rw [switched] at kept
      exact kept

theorem Reached.zeroCali_commits (reached : Reached clib .zeroCali statics)
    (state : statics.setStat = 3) (key : input.msg = .downOk) :
    (BoxPage.zeroCali.call clib input statics).ops =
      (Commit.zeroCaliSet (statics.box 0).setInteger).ops input.zhuodu := by
  have focused : statics.stat (.btn .btnSet) = .focused := reached.setFocused state
  simp only [BoxPage.call, menuZeroCali, zeroCaliSwitch, state, Flow.finish, btnProc, focused, key,
    and_self, if_true]

end Commits

end ZhuoduControl.Menu.BoxPages
