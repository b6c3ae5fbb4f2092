import ZhuoduControl.Menu.BoxPages
import ZhuoduControl.Menu.NumberBoxSaves

/-! The focus of the calibration pages: one item has it, and it is taken from no box
that is edited. -/

set_option autoImplicit false

namespace ZhuoduControl.Menu.BoxPages

open ZhuoduControl.Library
open ZhuoduControl.Library.DecimalText
open ZhuoduControl.Data
open ZhuoduControl.Menu
open ZhuoduControl.Menu.Box
open ZhuoduControl.Menu.Frame

/-- The item that a page designates. The page with nothing but a box never lets go of it. -/
def designated (page : BoxPage) (statics : BoxPageStatics) : Option PageItem :=
  match page, statics.setStat with
  | .coeffAB, 2 => some (.box 0)
  | .coeffAB, 3 => some (.box 1)
  | .coeffAB, 4 => some (.btn .btnConfirm)
  | .signal, 2 => some (.box 0)
  | .signal, 3 => some (.box 1)
  | .signal, 4 => some (.btn .btnConfirm)
  | .canbiZhuodu, _ => some (.box 0)
  | .zeroCali, 2 => some (.box 0)
  | .zeroCali, 3 => some (.btn .btnSet)
  | .zeroCali, 4 => some (.btn .btnConfirm)
  | .fullCali, 1 => some (.box 0)
  | .fullCali, 2 => some (.btn .btnConfirm)
  | .linearCali, 2 => some (.box statics.currSelect)
  | _, _ => none

structure Focus (page : BoxPage) (statics : BoxPageStatics) : Prop where
  only : ∀ item, statics.stat item ≠ .unfocused → designated page statics = some item
  selected : statics.currSelect < 8

def Idle (statics : BoxPageStatics) : Prop := ∀ index, (statics.box index).editing = false

def shownBits (box : NumberBox) : U32 :=
  match box.dataType with
  | .integer => box.setInteger
  | .float => box.setFloat

structure KeepsEdits (clib : Clib) (page : BoxPage) (before : BoxPageStatics) (input : PageInput) :
    Prop where
  focus : Focus page (page.call clib input before).statics
  modifing : ∀ index, (before.box index).boxStat = .modifing →
    ((page.call clib input before).statics.box index).boxStat = .modifing ∨
      ((page.call clib input before).statics.box index).boxStat = .saving
  saving : ∀ index, (before.box index).boxStat = .saving →
    ((page.call clib input before).statics.box index).boxStat = .saving ∨
      (((page.call clib input before).statics.box index).boxStat = .focused ∧
        (input.msg = .downMenu ∨ input.msg = .downOk))
  exits : ∀ statics ∈ (page.call clib input before).exits, statics.setStat = 0 ∧ Idle statics
  outside : (page.call clib input before).exits ≠ [] →
    (page.call clib input before).statics.setStat = 0
  reads : before.setStat = 0 → ∀ index bits, page.numbers input.zhuodu index = some bits →
    shownBits ((page.call clib input before).statics.box index) = bits

/-- `menu_signal_setup` leaves its first box although it is edited. -/
def DropsEdit (page : BoxPage) (before : BoxPageStatics) (input : PageInput) : Prop :=
  page = .signal ∧ before.setStat = 2 ∧ input.msg = .downMenu ∧ (before.box 0).editing = true

/-- The statics before a page is opened for the first time. -/
structure Unopened (statics : BoxPageStatics) : Prop where
  setStat : statics.setStat = 0
  currSelect : statics.currSelect < 8
  unfocused : ∀ item, statics.stat item = .unfocused

section Statics

variable (statics : BoxPageStatics) (item other : PageItem) (stat : BoxStat)

@[simp] theorem stat_goTo (setStat : Nat) : (statics.goTo setStat).stat item = statics.stat item := by
  cases item with
  | box => rfl
  | btn => rfl

@[simp] theorem setStat_goTo (setStat : Nat) : (statics.goTo setStat).setStat = setStat := rfl

@[simp] theorem currSelect_goTo (setStat : Nat) :
    (statics.goTo setStat).currSelect = statics.currSelect := rfl

@[simp] theorem stat_put :
    (statics.put item stat).stat other = if other = item then stat else statics.stat other := by
  cases item with
  | box index =>
      cases other with
      | box second =>
          by_cases same : second = index <;>
            simp [BoxPageStatics.stat, BoxPageStatics.put, same]
      | btn button => rfl
  | btn button =>
      cases other with
      | box second => rfl
      | btn second =>
          simp [BoxPageStatics.stat, BoxPageStatics.put, Function.update_apply]

@[simp] theorem setStat_put : (statics.put item stat).setStat = statics.setStat := by
  cases item with
  | box => rfl
  | btn => rfl

@[simp] theorem currSelect_put : (statics.put item stat).currSelect = statics.currSelect := by
  cases item with
  | box => rfl
  | btn => rfl

theorem foldl_unfocus (items : List PageItem) :
    ∀ statics : BoxPageStatics,
      (items.foldl (fun left item => left.put item .unfocused) statics).setStat =
          statics.setStat ∧
        (items.foldl (fun left item => left.put item .unfocused) statics).currSelect =
          statics.currSelect ∧
        ∀ other, (items.foldl (fun left item => left.put item .unfocused) statics).stat other =
          if other ∈ items then .unfocused else statics.stat other := by
  induction items with
  | nil => intro statics; simp
  | cons item rest ih =>
      intro statics
      obtain ⟨state, selected, stats⟩ := ih (statics.put item .unfocused)
      refine ⟨state.trans (setStat_put _ _ _), selected.trans (currSelect_put _ _ _), ?_⟩
      intro other
      have after := stats other
      rw [stat_put] at after
      simp only [List.foldl_cons, after, List.mem_cons]
      by_cases later : other ∈ rest
      · simp [later]
      · simp [later]

@[simp] theorem stat_reset (items : List PageItem) :
    (statics.reset items).stat other =
      if other ∈ items then .unfocused else statics.stat other := by
  rw [BoxPageStatics.reset, (foldl_unfocus items (statics.goTo 0)).2.2 other, stat_goTo]

@[simp] theorem setStat_reset (items : List PageItem) : (statics.reset items).setStat = 0 :=
  (foldl_unfocus items (statics.goTo 0)).1

@[simp] theorem currSelect_reset (items : List PageItem) :
    (statics.reset items).currSelect = statics.currSelect :=
  (foldl_unfocus items (statics.goTo 0)).2.1

@[simp] theorem stat_select (setStat currSelect : Nat) :
    BoxPageStatics.stat ⟨setStat, currSelect, statics.box, statics.status⟩ item =
      statics.stat item := by
  cases item with
  | box => rfl
  | btn => rfl

end Statics

section Focus

variable {page : BoxPage} {statics before after : BoxPageStatics} {item first second : PageItem}

theorem Focus.others (focus : Focus page statics) (designates : designated page statics = some item)
    (other : PageItem) (apart : other ≠ item) : statics.stat other = .unfocused := by
  by_contra focused
  exact apart (Option.some.inj ((focus.only other focused).symm.trans designates))

theorem Focus.nothing (focus : Focus page statics) (designates : designated page statics = none)
    (other : PageItem) : statics.stat other = .unfocused := by
  by_contra focused
  exact absurd ((focus.only other focused).symm.trans designates) nofun

theorem Focus.of_others (designates : designated page statics = some item)
    (others : ∀ other, other ≠ item → statics.stat other = .unfocused)
    (selected : statics.currSelect < 8) : Focus page statics := by
  refine ⟨?_, selected⟩
  intro other focused
  by_cases same : other = item
  · rw [same]
    exact designates
  · exact absurd (others other same) focused

theorem Focus.of_quiet (quiet : ∀ item, statics.stat item = .unfocused)
    (selected : statics.currSelect < 8) : Focus page statics :=
  ⟨fun item focused => absurd (quiet item) focused, selected⟩

theorem editing_iff (index : Nat) : (statics.box index).editing = true ↔
    statics.stat (.box index) = .modifing ∨ statics.stat (.box index) = .saving := by
  simp [NumberBox.editing, BoxPageStatics.stat]

theorem Idle.of_stat (unfocused : ∀ index, statics.stat (.box index) = .unfocused ∨
    statics.stat (.box index) = .focused) : Idle statics := by
  intro index
  rw [Bool.eq_false_iff]
  intro editing
  rcases unfocused index with stat | stat <;> simp [editing_iff, stat] at editing

theorem Idle.of_quiet (quiet : ∀ item, statics.stat item = .unfocused) : Idle statics :=
  .of_stat fun index => .inl (quiet (.box index))

theorem Focus.idle_of_focused (focus : Focus page statics)
    (designates : designated page statics = some item) (focused : statics.stat item = .focused) :
    Idle statics := by
  refine .of_stat fun index => ?_
  by_cases same : .box index = item
  · exact .inr (same ▸ focused)
  · exact .inl (focus.others designates _ same)

theorem Focus.idle_of_btn {button : BoxButton} (focus : Focus page statics)
    (designates : designated page statics = some (.btn button)) : Idle statics :=
  .of_stat fun index => .inl (focus.others designates (.box index) nofun)

/-- What a page knows between two calls. -/
structure Settled (page : BoxPage) (statics : BoxPageStatics) : Prop where
  focus : Focus page statics
  closed : statics.setStat = 0 → Idle statics

theorem Unopened.settled (unopened : Unopened statics) : Settled page statics :=
  ⟨.of_quiet unopened.unfocused unopened.currSelect, fun _ => .of_quiet unopened.unfocused⟩

/-- What the `switch` of a page makes of its statics. -/
inductive Turn (page : BoxPage) (input : PageInput) (before : BoxPageStatics) :
    BoxPageStatics → List BoxPageStatics → Prop
  | stays (inside : before.setStat ≠ 0) : Turn page input before before []
  | moves {left} (idle : Idle before) (focus : Focus page left) (inside : left.setStat ≠ 0) :
      Turn page input before left []
  | leaves {left} (idle : Idle before) (outside : left.setStat = 0)
      (quiet : ∀ item, left.stat item = .unfocused) (selected : left.currSelect < 8) :
      Turn page input before left [left]
  | drops {left} (drop : DropsEdit page before input) (outside : left.setStat = 0)
      (quiet : ∀ item, left.stat item = .unfocused) (selected : left.currSelect < 8) :
      Turn page input before left [left]

variable {input : PageInput}

theorem Focus.put (quiet : ∀ item, statics.stat item = .unfocused)
    (designates : designated page (statics.put item .focused) = some item)
    (selected : statics.currSelect < 8) : Focus page (statics.put item .focused) := by
  refine .of_others designates ?_ ?_
  · intro other apart
    rw [stat_put, if_neg apart]
    exact quiet other
  · rw [currSelect_put]
    exact selected

theorem Turn.takes (focus : Focus page before) (state : Nat) (item : PageItem)
    (free : designated page before = none) (inside : state ≠ 0)
    (designates : designated page ((before.goTo state).put item .focused) = some item) :
    Turn page input before ((before.goTo state).put item .focused) [] := by
  have quiet := focus.nothing free
  refine .moves (.of_quiet quiet) (.put ?_ designates focus.selected) ?_
  · intro other
    rw [stat_goTo]
    exact quiet other
  · rw [setStat_put]
    exact inside

theorem Turn.passes (focus : Focus page before) (idle : Idle before) (state : Nat)
    (second : PageItem) (designates : designated page before = some first) (inside : state ≠ 0)
    (follows : designated page (((before.goTo state).put first .unfocused).put second .focused) =
      some second) :
    Turn page input before (((before.goTo state).put first .unfocused).put second .focused) [] := by
  refine .moves idle (.of_others follows ?_ ?_) ?_
  · intro other apart
    rw [stat_put, if_neg apart, stat_put, stat_goTo]
    by_cases same : other = first
    · rw [if_pos same]
    · rw [if_neg same]
      exact focus.others designates other same
  · rw [currSelect_put, currSelect_put]
    exact focus.selected
  · rw [setStat_put, setStat_put]
    exact inside

theorem Focus.reset_quiet {items : List PageItem} (focus : Focus page before)
    (covers : ∀ item, designated page before = some item → item ∈ items) (item : PageItem) :
    (before.reset items).stat item = .unfocused := by
  rw [stat_reset]
  split
  · rfl
  · next outside =>
      by_contra focused
      exact outside (covers item (focus.only item focused))

theorem Turn.reset {items : List PageItem} (focus : Focus page before) (idle : Idle before)
    (covers : ∀ item, designated page before = some item → item ∈ items) :
    Turn page input before (before.reset items) [before.reset items] := by
  refine .leaves idle (setStat_reset _ _) (focus.reset_quiet covers) ?_
  rw [currSelect_reset]
  exact focus.selected

theorem Turn.closed (focus : Focus page before) (free : designated page before = none) :
    Turn page input before (before.goTo 0) [before.goTo 0] := by
  refine .leaves (.of_quiet (focus.nothing free)) rfl ?_ focus.selected
  intro item
  rw [stat_goTo]
  exact focus.nothing free item

theorem designated_closed (closed : statics.setStat = 0)
    (designates : designated page statics = some item) : item = .box 0 := by
  unfold designated at designates
  rw [closed] at designates
  cases page <;> simp_all

theorem configs_nonempty (page : BoxPage) : 0 < page.configs.length := by
  cases page <;> decide

theorem stat_firstCall_box (configs : List BoxConfig) (stat : BoxStat)
    (numbers : Nat → Option U32) (index : Nat) :
    (before.firstCall configs stat numbers).stat (.box index) =
      if index < configs.length then stat else before.stat (.box index) := by
  unfold BoxPageStatics.firstCall BoxPageStatics.stat
  dsimp only
  by_cases below : index < configs.length
  · rw [if_pos below, List.getElem?_eq_getElem below]
    dsimp only
    split <;> rfl
  · rw [if_neg below, List.getElem?_eq_none (Nat.le_of_not_lt below)]

theorem firstCall_reads {configs : List BoxConfig} {stat : BoxStat} {numbers : Nat → Option U32}
    {index : Nat} {bits : U32} (below : index < configs.length) (read : numbers index = some bits) :
    shownBits ((before.firstCall configs stat numbers).box index) = bits := by
  unfold BoxPageStatics.firstCall
  dsimp only
  rw [List.getElem?_eq_getElem below, read]
  dsimp only
  cases type : configs[index].dataType with
  | integer => simp [shownBits, type]
  | float => simp [shownBits, type]

theorem single_below {index : Nat} {number bits : U32}
    (read : (if index = 0 then some number else none) = some bits) : index < 1 := by
  split at read
  · omega
  · cases read

theorem coeffABNumbers_below {zhuodu : Zhuodu} {index : Nat} {bits : U32}
    (read : coeffABNumbers zhuodu index = some bits) : index < 2 := by
  rcases index with _ | _ | more
  · decide
  · decide
  · simp [coeffABNumbers] at read

theorem signalNumbers_below {zhuodu : Zhuodu} {index : Nat} {bits : U32}
    (read : signalNumbers zhuodu index = some bits) : index < 2 := by
  rcases index with _ | _ | more
  · decide
  · decide
  · cases read

theorem linearCaliNumbers_below {zhuodu : Zhuodu} {index : Nat} {bits : U32}
    (read : linearCaliNumbers zhuodu index = some bits) : index < 8 := by
  refine Nat.lt_of_not_le fun behind => ?_
  obtain ⟨more, rfl⟩ := Nat.exists_eq_add_of_le' behind
  cases read

theorem numbers_below (page : BoxPage) {zhuodu : Zhuodu} {index : Nat} {bits : U32}
    (read : page.numbers zhuodu index = some bits) : index < page.configs.length := by
  cases page with
  | coeffAB => exact coeffABNumbers_below read
  | signal => exact signalNumbers_below read
  | canbiZhuodu => exact single_below read
  | zeroCali => exact single_below read
  | fullCali => exact single_below read
  | linearCali => exact linearCaliNumbers_below read

/-- The first call of a page, whose box may get the focus at once. -/
theorem Settled.enter {stat : BoxStat} (settled : Settled page before) (closed : before.setStat = 0)
    (focuses : stat = .unfocused ∨ (page.configs.length = 1 ∧
      ∀ statics : BoxPageStatics, statics.setStat = 1 → designated page statics = some (.box 0))) :
    Turn page input before (page.enter input before stat).statics [] := by
  refine .moves (settled.closed closed) ⟨?_, settled.focus.selected⟩ Nat.one_ne_zero
  intro item focused
  cases item with
  | btn button => exact absurd rfl focused
  | box index =>
      have stats : (page.enter input before stat).statics.stat (.box index) =
          if index < page.configs.length then stat else before.stat (.box index) :=
        stat_firstCall_box page.configs stat (page.numbers input.zhuodu) index
      by_cases below : index < page.configs.length
      · rcases focuses with unfocused | ⟨single, designates⟩
        · rw [if_pos below] at stats
          exact absurd (stats.trans unfocused) focused
        · have zero : index = 0 := by omega
          rw [zero]
          exact designates _ rfl
      · rw [if_neg below] at stats
        have kept : before.stat (.box index) ≠ .unfocused := fun same =>
          focused (stats.trans same)
        cases designated_closed closed (settled.focus.only _ kept)
        exact absurd (configs_nonempty page) below

end Focus

def Flow.pass : Flow → PagePass
  | .returns pass => pass
  | .breaks pass => pass

section Switches

variable {input : PageInput} {before : BoxPageStatics}

theorem coeffABSwitch_turn (settled : Settled .coeffAB before) :
    Turn .coeffAB input before (coeffABSwitch input before).pass.statics
      (coeffABSwitch input before).pass.exits := by
  have focus := settled.focus
  unfold coeffABSwitch
  split
  · next stat => exact settled.enter stat (.inl rfl)
  · next stat =>
      have free : designated .coeffAB before = none := by simp [designated, stat]
      split
      · exact .closed focus free
      · split
        · exact .takes focus 2 (.box 0) free (by decide) rfl
        · exact .stays (by omega)
  · next stat =>
      have box0 : designated .coeffAB before = some (.box 0) := by simp [designated, stat]
      split
      · next moves =>
          exact .passes focus (focus.idle_of_focused box0 moves.1) 3 (.box 1) box0 (by decide)
            rfl
      · exact .stays (by omega)
  · next stat =>
      have box1 : designated .coeffAB before = some (.box 1) := by simp [designated, stat]
      split
      · next focused =>
          have idle := focus.idle_of_focused box1 focused
          split
          · exact .passes focus idle 4 (.btn .btnConfirm) box1 (by decide) rfl
          · split
            · exact .reset focus idle (by simp [box1, twoBoxes])
            · exact .stays (by omega)
      · exact .stays (by omega)
  · next stat =>
      have button : designated .coeffAB before = some (.btn .btnConfirm) := by
        simp [designated, stat]
      have idle := focus.idle_of_btn button
      split
      · exact .reset focus idle (by simp [button, twoBoxes])
      · split
        · exact .reset focus idle (by simp [button, twoBoxes])
        · exact .stays (by omega)
  · exact .stays (by omega)

theorem signalCaseThree_turn (focus : Focus .signal before) (inside : before.setStat ≠ 0)
    (box1 : before.stat (.box 1) = .focused → designated .signal before = some (.box 1)) :
    Turn .signal input before (signalCaseThree input before).pass.statics
      (signalCaseThree input before).pass.exits := by
  unfold signalCaseThree
  split
  · next focused =>
      have designates := box1 focused
      have idle := focus.idle_of_focused designates focused
      split
      · exact .passes focus idle 4 (.btn .btnConfirm) designates (by decide) rfl
      · split
        · exact .reset focus idle (by simp [designates, twoBoxes])
        · exact .stays inside
  · exact .stays inside

theorem signalSwitch_turn (settled : Settled .signal before) :
    Turn .signal input before (signalSwitch input before).pass.statics
      (signalSwitch input before).pass.exits := by
  have focus := settled.focus
  unfold signalSwitch
  split
  · next stat => exact settled.enter stat (.inl rfl)
  · next stat =>
      have free : designated .signal before = none := by simp [designated, stat]
      split
      · exact .closed focus free
      · split
        · exact .takes focus 2 (.box 0) free (by decide) rfl
        · exact .stays (by omega)
  · next stat =>
      have box0 : designated .signal before = some (.box 0) := by simp [designated, stat]
      split
      · next moves =>
          exact .passes focus (focus.idle_of_focused box0 moves.1) 3 (.box 1) box0 (by decide) rfl
      · split
        · next key =>
            have covers : ∀ item, designated .signal before = some item →
                item ∈ [PageItem.box 0, .box 1] := by simp [box0]
            by_cases editing : (before.box 0).editing = true
            · refine .drops ⟨rfl, stat, key, editing⟩ (setStat_reset _ _)
                (focus.reset_quiet covers) ?_
              exact (currSelect_reset _ _).trans_lt focus.selected
            · refine .reset focus ?_ covers
              intro index
              by_cases first : index = 0
              · rw [first]
                exact Bool.eq_false_iff.mpr editing
              · have unfocused := focus.others box0 (.box index) (by simpa using first)
                rw [Bool.eq_false_iff, ne_eq, editing_iff, unfocused]
                simp
        · refine signalCaseThree_turn focus (by omega) fun focused => ?_
          rw [focus.others box0 (.box 1) (by decide)] at focused
          cases focused
  · next stat =>
      exact signalCaseThree_turn focus (by omega) fun _ => by simp [designated, stat]
  · next stat =>
      have button : designated .signal before = some (.btn .btnConfirm) := by
        simp [designated, stat]
      have idle := focus.idle_of_btn button
      split
      · exact .reset focus idle (by simp [button, twoBoxes])
      · split
        · exact .reset focus idle (by simp [button, twoBoxes])
        · exact .stays (by omega)
  · exact .stays (by omega)

theorem zeroCaliSwitch_turn (settled : Settled .zeroCali before) :
    Turn .zeroCali input before (zeroCaliSwitch input before).pass.statics
      (zeroCaliSwitch input before).pass.exits := by
  have focus := settled.focus
  unfold zeroCaliSwitch
  split
  · next stat => exact settled.enter stat (.inl rfl)
  · next stat =>
      have free : designated .zeroCali before = none := by simp [designated, stat]
      split
      · exact .closed focus free
      · split
        · exact .takes focus 2 (.box 0) free (by decide) rfl
        · exact .stays (by omega)
  · next stat =>
      have box0 : designated .zeroCali before = some (.box 0) := by simp [designated, stat]
      split
      · next moves =>
          exact .passes focus (focus.idle_of_focused box0 moves.1) 3 (.btn .btnSet) box0
            (by decide) rfl
      · split
        · next leaves =>
            exact .reset focus (focus.idle_of_focused box0 leaves.1) (by simp [box0])
        · exact .stays (by omega)
  · next stat =>
      have button : designated .zeroCali before = some (.btn .btnSet) := by simp [designated, stat]
      have idle := focus.idle_of_btn button
      split
      · exact .passes focus idle 4 (.btn .btnConfirm) button (by decide) rfl
      · split
        · exact .reset focus idle (by simp [button])
        · exact .stays (by omega)
  · next stat =>
      have button : designated .zeroCali before = some (.btn .btnConfirm) := by
        simp [designated, stat]
      have idle := focus.idle_of_btn button
      split
      · exact .reset focus idle (by simp [button])
      · split
        · exact .reset focus idle (by simp [button])
        · exact .stays (by omega)
  · exact .stays (by omega)

theorem fullCaliSwitch_turn (settled : Settled .fullCali before) :
    Turn .fullCali input before (fullCaliSwitch input before).pass.statics
      (fullCaliSwitch input before).pass.exits := by
  have focus := settled.focus
  unfold fullCaliSwitch
  split
  · next stat =>
      refine settled.enter stat (.inr ⟨rfl, ?_⟩)
      intro statics entered
      simp [designated, entered]
  · next stat =>
      have box0 : designated .fullCali before = some (.box 0) := by simp [designated, stat]
      split
      · next leaves =>
          exact .reset focus (focus.idle_of_focused box0 leaves.2) (by simp [box0])
      · split
        · next moves =>
            exact .passes focus (focus.idle_of_focused box0 moves.2) 2 (.btn .btnConfirm) box0
              (by decide) rfl
        · exact .stays (by omega)
  · next stat =>
      have button : designated .fullCali before = some (.btn .btnConfirm) := by
        simp [designated, stat]
      have idle := focus.idle_of_btn button
      split
      · exact .reset focus idle (by simp [button])
      · split
        · exact .reset focus idle (by simp [button])
        · exact .stays (by omega)
  · exact .stays (by omega)

theorem select_turn {target : Nat} (focus : Focus .linearCali before) (idle : Idle before)
    (state : before.setStat = 2) (below : target < 8) :
    Turn .linearCali input before (select target before) [] := by
  have designates : designated .linearCali before = some (.box before.currSelect) := by
    simp [designated, state]
  have after : (select target before).setStat = 2 := by simp [select, state]
  have selected : (select target before).currSelect = target := by simp [select]
  have follows : designated .linearCali (select target before) = some (.box target) := by
    simp [designated, after, selected]
  refine .moves idle (.of_others follows ?_ ?_) (after ▸ by decide)
  · intro other apart
    simp only [select, stat_put, if_neg apart, stat_select]
    by_cases same : other = .box before.currSelect
    · rw [if_pos same]
    · rw [if_neg same]
      exact focus.others designates other same
  · rw [selected]
    exact below

theorem linearCaliCaseTwo_unfocused {exits : List BoxPageStatics}
    (unfocused : before.stat (.box before.currSelect) = .unfocused) :
    linearCaliCaseTwo input exits before = .breaks ⟨before, [], exits⟩ := by
  simp [linearCaliCaseTwo, unfocused]

theorem linearCaliCaseTwo_turn (focus : Focus .linearCali before) (state : before.setStat = 2) :
    Turn .linearCali input before (linearCaliCaseTwo input [] before).pass.statics
      (linearCaliCaseTwo input [] before).pass.exits := by
  have designates : designated .linearCali before = some (.box before.currSelect) := by
    simp [designated, state]
  have below := focus.selected
  unfold linearCaliCaseTwo
  split
  · next down =>
      have idle := focus.idle_of_focused designates down.2
      split
      · exact select_turn focus idle state (by omega)
      · exact .stays (by omega)
  · split
    · next up =>
        have idle := focus.idle_of_focused designates up.2
        split
        · exact select_turn focus idle state (by omega)
        · exact .stays (by omega)
    · split
      · next leaves =>
          have covers : ∀ item, designated .linearCali before = some item →
              item ∈ (List.range 8).map PageItem.box := by
            simpa [designates] using below
          refine .leaves (focus.idle_of_focused designates leaves.1) (setStat_reset _ _) ?_ ?_
          · intro item
            rw [stat_select]
            exact focus.reset_quiet covers item
          · exact Nat.zero_lt_succ 7
      · exact .stays (by omega)

theorem linearCali_begins (quiet : ∀ item, before.stat item = .unfocused) :
    Turn .linearCali input before
      ({ before.goTo 2 with currSelect := 0 }.put (.box 0) .focused) [] := by
  have unfocused (item : PageItem) :
      { before.goTo 2 with currSelect := 0 }.stat item = .unfocused := by
    rw [stat_select, stat_goTo]
    exact quiet item
  exact .moves (.of_quiet quiet) (.put unfocused rfl (Nat.zero_lt_succ 7)) nofun

theorem linearCaliSwitch_turn (settled : Settled .linearCali before) :
    Turn .linearCali input before (linearCaliSwitch input before).pass.statics
      (linearCaliSwitch input before).pass.exits := by
  have focus := settled.focus
  unfold linearCaliSwitch
  split
  · next stat => exact settled.enter stat (.inl rfl)
  · next stat =>
      have free : designated .linearCali before = none := by simp [designated, stat]
      have unfocused := focus.nothing free
      split
      · rw [linearCaliCaseTwo_unfocused ((stat_goTo _ _ _).trans (unfocused _))]
        exact .closed focus free
      · split
        · exact linearCali_begins unfocused
        · rw [linearCaliCaseTwo_unfocused (unfocused _)]
          exact .stays (by omega)
  · next stat => exact linearCaliCaseTwo_turn focus stat
  · next closed began chosen =>
      refine .closed focus ?_
      unfold designated
      split <;> simp_all

end Switches

section Tails

/-- What a call of `set_number_box` may do with the state of a box. -/
structure Follows (msg : KeyCode) (before after : BoxStat) : Prop where
  unfocused : before = .unfocused → after = .unfocused
  modifing : before = .modifing → after = .modifing ∨ after = .saving
  saving : before = .saving →
    after = .saving ∨ (after = .focused ∧ (msg = .downMenu ∨ msg = .downOk))

variable {clib : Clib} {input : PageInput} {page : BoxPage} {before left after : BoxPageStatics}
variable {exits : List BoxPageStatics}

theorem Follows.refl (msg : KeyCode) (stat : BoxStat) : Follows msg stat stat :=
  ⟨id, Or.inl, Or.inl⟩

theorem edit_follows (msg : KeyCode) (uninit : Number) (box : NumberBox) :
    Follows msg box.boxStat (box.edit clib msg uninit).boxStat := by
  have edited := box.edited clib msg uninit
  generalize box.edit clib msg uninit = result at edited
  cases edited with
  | unfocused stat => exact .refl _ _
  | focused stat closed => exact .refl _ _
  | opens stat writable => simp [stat, Follows.mk]
  | up stat => exact .refl _ _
  | down stat => exact .refl _ _
  | asks stat => simp [stat, Follows.mk]
  | moves stat => exact .refl _ _
  | idles stat other => exact .refl _ _
  | saves stat => simp [stat, Follows.mk]
  | cancels stat => simp [stat, Follows.mk]
  | waits stat other => exact .refl _ _

/-- What the end of a page does with the statics. -/
structure Retouched (input : PageInput) (before after : BoxPageStatics) : Prop where
  setStat : after.setStat = before.setStat
  currSelect : after.currSelect = before.currSelect
  stat : ∀ item, Follows input.msg (before.stat item) (after.stat item)

theorem Retouched.refl (statics : BoxPageStatics) : Retouched input statics statics :=
  ⟨rfl, rfl, fun _ => .refl _ _⟩

theorem editBoxes_retouched (count : Nat) : Retouched input left (left.editBoxes clib input count) where
  setStat := rfl
  currSelect := rfl
  stat := by
    intro item
    cases item with
    | btn button => exact .refl _ _
    | box index =>
        unfold BoxPageStatics.stat BoxPageStatics.editBoxes
        dsimp only
        split
        · exact edit_follows _ _ _
        · exact .refl _ _

/-- Only what is shown of the boxes has changed. -/
structure Redrawn (before after : BoxPageStatics) : Prop where
  setStat : after.setStat = before.setStat
  currSelect : after.currSelect = before.currSelect
  stat : ∀ item, after.stat item = before.stat item

theorem Redrawn.of_boxes {box : Nat → NumberBox}
    (same : ∀ index, (box index).boxStat = (before.box index).boxStat) :
    Redrawn before { before with box := box } := by
  refine ⟨rfl, rfl, ?_⟩
  intro item
  cases item with
  | box index => exact same index
  | btn button => rfl

theorem Retouched.redrawn (retouched : Retouched input before left) (redrawn : Redrawn left after) :
    Retouched input before after where
  setStat := redrawn.setStat.trans retouched.setStat
  currSelect := redrawn.currSelect.trans retouched.currSelect
  stat item := redrawn.stat item ▸ retouched.stat item

theorem Redrawn.retouched (redrawn : Redrawn before left) (retouched : Retouched input left after) :
    Retouched input before after where
  setStat := retouched.setStat.trans redrawn.setStat
  currSelect := retouched.currSelect.trans redrawn.currSelect
  stat item := redrawn.stat item ▸ retouched.stat item

theorem update_boxStat {box : Nat → NumberBox} {target : Nat} {changed : NumberBox}
    (same : changed.boxStat = (box target).boxStat) (index : Nat) :
    (Function.update box target changed index).boxStat = (box index).boxStat := by
  by_cases here : index = target
  · simp [here, same]
  · simp [here]

theorem coeffABShow_redrawn (statics : BoxPageStatics) : Redrawn statics (coeffABShow statics) := by
  unfold coeffABShow
  dsimp only
  split
  · exact .of_boxes (update_boxStat rfl)
  · split
    · exact .of_boxes (update_boxStat rfl)
    · refine .of_boxes fun index => ?_
      rw [update_boxStat, update_boxStat]
      · rfl
      · rfl

theorem linearCaliPlace_boxStat (currSelect index : Nat) (box : NumberBox) :
    (linearCaliPlace currSelect index box).boxStat = box.boxStat := by
  unfold linearCaliPlace
  split
  · split <;> rfl
  · split <;> rfl

theorem linearCaliShow_redrawn (statics : BoxPageStatics) :
    Redrawn statics (linearCaliShow statics) := by
  have placed (index : Nat) :
      (if index < 8 then linearCaliPlace statics.currSelect index (statics.box index)
        else statics.box index).boxStat = (statics.box index).boxStat := by
    split
    · exact linearCaliPlace_boxStat _ _ _
    · rfl
  unfold linearCaliShow
  dsimp only
  split
  · exact .of_boxes placed
  · refine .of_boxes fun index => ?_
    rw [update_boxStat]
    · exact placed index
    · rfl

end Tails

section Calls

variable {clib : Clib} {input : PageInput} {page : BoxPage} {before left after : BoxPageStatics}
variable {exits : List BoxPageStatics}

theorem Flow.finish_turn {flow : Flow} {tail : PagePass → PagePass}
    (turn : Turn page input before flow.pass.statics flow.pass.exits)
    (exits : ∀ pass, (tail pass).exits = pass.exits)
    (retouched : ∀ pass, Retouched input pass.statics (tail pass).statics) :
    ∃ left, Turn page input before left (flow.finish tail).exits ∧
      Retouched input left (flow.finish tail).statics := by
  cases flow with
  | returns pass => exact ⟨pass.statics, turn, .refl _⟩
  | breaks pass =>
      refine ⟨pass.statics, ?_, retouched pass⟩
      rw [Flow.finish, exits]
      exact turn

/-- Every page but `menu_canbi_zhuodu` has a `switch` first. -/
theorem call_turn (settled : Settled page before) (switched : page ≠ .canbiZhuodu) :
    ∃ left, Turn page input before left (page.call clib input before).exits ∧
      Retouched input left (page.call clib input before).statics := by
  cases page with
  | coeffAB =>
      exact Flow.finish_turn (coeffABSwitch_turn settled) (fun _ => rfl)
        fun _ => (editBoxes_retouched 2).redrawn (coeffABShow_redrawn _)
  | signal =>
      exact Flow.finish_turn (signalSwitch_turn settled) (fun _ => rfl)
        fun _ => editBoxes_retouched 2
  | canbiZhuodu => exact absurd rfl switched
  | zeroCali =>
      exact Flow.finish_turn (zeroCaliSwitch_turn settled) (fun _ => rfl)
        fun _ => editBoxes_retouched 1
  | fullCali =>
      exact Flow.finish_turn (fullCaliSwitch_turn settled) (fun _ => rfl)
        fun _ => editBoxes_retouched 1
  | linearCali =>
      exact Flow.finish_turn (linearCaliSwitch_turn settled) (fun _ => rfl)
        fun _ => (linearCaliShow_redrawn _).retouched (editBoxes_retouched 8)

theorem designated_congr (state : after.setStat = left.setStat)
    (selected : after.currSelect = left.currSelect) :
    designated page after = designated page left := by
  unfold designated
  rw [state, selected]

theorem Retouched.focus (retouched : Retouched input left after) (focus : Focus page left) :
    Focus page after := by
  refine ⟨?_, retouched.currSelect ▸ focus.selected⟩
  intro item focused
  rw [designated_congr retouched.setStat retouched.currSelect]
  refine focus.only item fun unfocused => focused ?_
  exact (retouched.stat item).unfocused unfocused

theorem Turn.focus (turn : Turn page input before left exits) (focus : Focus page before) :
    Focus page left := by
  cases turn with
  | stays => exact focus
  | moves idle moved => exact moved
  | leaves idle outside quiet selected => exact .of_quiet quiet selected
  | drops drop outside quiet selected => exact .of_quiet quiet selected

theorem Turn.settled (turn : Turn page input before left exits) (settled : Settled page before)
    (retouched : Retouched input left after) : Settled page after := by
  refine ⟨retouched.focus (turn.focus settled.focus), ?_⟩
  intro closed
  have quieted (quiet : ∀ item, left.stat item = .unfocused) : Idle after :=
    .of_quiet fun item => (retouched.stat item).unfocused (quiet item)
  cases turn with
  | stays inside => exact absurd (retouched.setStat.symm.trans closed) inside
  | moves idle moved inside => exact absurd (retouched.setStat.symm.trans closed) inside
  | leaves idle outside quiet => exact quieted quiet
  | drops drop outside quiet => exact quieted quiet

theorem Turn.follows (turn : Turn page input before left exits)
    (retouched : Retouched input left after) (careful : ¬ DropsEdit page before input)
    (index : Nat) (editing : (before.box index).editing = true) :
    Follows input.msg (before.stat (.box index)) (after.stat (.box index)) := by
  have busy (idle : Idle before) : False := by
    rw [idle index] at editing
    cases editing
  cases turn with
  | stays inside => exact retouched.stat (.box index)
  | moves idle => exact (busy idle).elim
  | leaves idle => exact (busy idle).elim
  | drops drop => exact absurd drop careful

theorem Turn.exits_closed (turn : Turn page input before left exits) :
    ∀ statics ∈ exits, statics.setStat = 0 ∧ Idle statics := by
  intro statics member
  cases turn with
  | stays => cases member
  | moves => cases member
  | leaves idle outside quiet =>
      rw [List.mem_singleton.mp member]
      exact ⟨outside, .of_quiet quiet⟩
  | drops drop outside quiet =>
      rw [List.mem_singleton.mp member]
      exact ⟨outside, .of_quiet quiet⟩

theorem Turn.outside (turn : Turn page input before left exits) (some_ : exits ≠ []) :
    left.setStat = 0 := by
  cases turn with
  | stays => exact absurd rfl some_
  | moves => exact absurd rfl some_
  | leaves idle outside => exact outside
  | drops drop outside => exact outside

theorem call_closed (closed : before.setStat = 0) :
    ∃ stat, page.call clib input before = page.enter input before stat := by
  cases page with
  | coeffAB =>
      refine ⟨.unfocused, ?_⟩
      simp [BoxPage.call, menuCoeffABSetup, coeffABSwitch, closed, Flow.finish]
  | signal =>
      refine ⟨.unfocused, ?_⟩
      simp [BoxPage.call, menuSignalSetup, signalSwitch, closed, Flow.finish]
  | canbiZhuodu =>
      refine ⟨.focused, ?_⟩
      simp [BoxPage.call, menuCanbiZhuodu, closed]
  | zeroCali =>
      refine ⟨.unfocused, ?_⟩
      simp [BoxPage.call, menuZeroCali, zeroCaliSwitch, closed, Flow.finish]
  | fullCali =>
      refine ⟨.focused, ?_⟩
      simp [BoxPage.call, menuFullCali, fullCaliSwitch, closed, Flow.finish]
  | linearCali =>
      refine ⟨.unfocused, ?_⟩
      simp [BoxPage.call, menuLinearCali, linearCaliSwitch, closed, Flow.finish]

theorem call_reads (closed : before.setStat = 0) {index : Nat} {bits : U32}
    (read : page.numbers input.zhuodu index = some bits) :
    shownBits ((page.call clib input before).statics.box index) = bits := by
  have opened : ∃ stat, page.call clib input before = page.enter input before stat :=
    call_closed closed
  obtain ⟨stat, entered⟩ := opened
  rw [entered]
  exact firstCall_reads (numbers_below page read) read

theorem Turn.keepsEdits (settled : Settled page before)
    (turn : Turn page input before left (page.call clib input before).exits)
    (retouched : Retouched input left (page.call clib input before).statics)
    (careful : ¬ DropsEdit page before input) : KeepsEdits clib page before input where
  focus := (turn.settled settled retouched).focus
  modifing index stat :=
    (turn.follows retouched careful index ((editing_iff index).mpr (.inl stat))).modifing stat
  saving index stat :=
    (turn.follows retouched careful index ((editing_iff index).mpr (.inr stat))).saving stat
  exits := turn.exits_closed
  outside left_ := retouched.setStat.trans (turn.outside left_)
  reads closed _ _ read := call_reads closed read

/-- The page with nothing but a box leaves when the box has the focus again. -/
theorem canbiZhuodu_leaves (settled : Settled .canbiZhuodu before) (inside : before.setStat ≠ 0)
    (leaves : input.msg = .downMenu ∧
      (before.editBoxes clib input 1).stat (.box 0) = .focused) :
    Settled .canbiZhuodu (BoxPage.canbiZhuodu.call clib input before).statics ∧
      KeepsEdits clib .canbiZhuodu before input := by
  have retouched : Retouched input before (before.editBoxes clib input 1) := editBoxes_retouched 1
  have edited := retouched.focus settled.focus
  have idle := edited.idle_of_focused rfl leaves.2
  have called : BoxPage.canbiZhuodu.call clib input before =
      ((before.editBoxes clib input 1).goTo 0).leafExit
        ((Commit.canbiZhuodu ((before.editBoxes clib input 1).box 0).setFloat).ops
          input.zhuodu) := by
    simp only [BoxPage.call, menuCanbiZhuodu, if_neg inside, if_pos leaves]
  have focus : Focus .canbiZhuodu (BoxPage.canbiZhuodu.call clib input before).statics := by
    rw [called]
    refine ⟨fun item focused => edited.only item ?_, edited.selected⟩
    rw [← stat_goTo _ item 0]
    exact focused
  refine ⟨⟨focus, fun _ => called ▸ idle⟩, focus, ?_, ?_, ?_, ?_, ?_⟩
  · intro index stat
    rw [called]
    exact (retouched.stat (.box index)).modifing stat
  · intro index stat
    rw [called]
    exact (retouched.stat (.box index)).saving stat
  · intro statics member
    rw [called] at member
    rw [List.mem_singleton.mp member]
    exact ⟨rfl, idle⟩
  · intro _
    rw [called]
    rfl
  · intro closed
    exact absurd closed inside

theorem canbiZhuodu_keepsEdits (settled : Settled .canbiZhuodu before) :
    Settled .canbiZhuodu (BoxPage.canbiZhuodu.call clib input before).statics ∧
      KeepsEdits clib .canbiZhuodu before input := by
  have careful : ¬ DropsEdit .canbiZhuodu before input := fun drop => nomatch drop.1
  by_cases inside : before.setStat = 0
  · have called : BoxPage.canbiZhuodu.call clib input before =
        BoxPage.canbiZhuodu.enter input before .focused := by
      simp only [BoxPage.call, menuCanbiZhuodu, if_pos inside]
    have turn : Turn .canbiZhuodu input before
        (BoxPage.canbiZhuodu.enter input before .focused).statics
        (BoxPage.canbiZhuodu.call clib input before).exits := by
      rw [called]
      exact settled.enter inside (.inr ⟨rfl, fun _ _ => rfl⟩)
    have retouched : Retouched input (BoxPage.canbiZhuodu.enter input before .focused).statics
        (BoxPage.canbiZhuodu.call clib input before).statics := by
      rw [called]
      exact .refl _
    exact ⟨turn.settled settled retouched, turn.keepsEdits settled retouched careful⟩
  · by_cases leaves : input.msg = .downMenu ∧
        (before.editBoxes clib input 1).stat (.box 0) = .focused
    · exact canbiZhuodu_leaves settled inside leaves
    · have called : BoxPage.canbiZhuodu.call clib input before =
          (before.editBoxes clib input 1).stay := by
        simp only [BoxPage.call, menuCanbiZhuodu, if_neg inside, if_neg leaves]
      have turn : Turn .canbiZhuodu input before before
          (BoxPage.canbiZhuodu.call clib input before).exits := called ▸ .stays inside
      have retouched : Retouched input before
          (BoxPage.canbiZhuodu.call clib input before).statics := called ▸ editBoxes_retouched 1
      exact ⟨turn.settled settled retouched, turn.keepsEdits settled retouched careful⟩

theorem call_settled (settled : Settled page before) :
    Settled page (page.call clib input before).statics := by
  by_cases switched : page = .canbiZhuodu
  · subst switched
    exact (canbiZhuodu_keepsEdits settled).1
  · obtain ⟨left, turn, retouched⟩ := call_turn settled switched
    exact turn.settled settled retouched

theorem call_keepsEdits (settled : Settled page before) (careful : ¬ DropsEdit page before input) :
    KeepsEdits clib page before input := by
  by_cases switched : page = .canbiZhuodu
  · subst switched
    exact (canbiZhuodu_keepsEdits settled).2
  · obtain ⟨left, turn, retouched⟩ := call_turn settled switched
    exact turn.keepsEdits settled retouched careful

theorem signal_drops (drop : DropsEdit page before input) :
    ¬ KeepsEdits clib page before input := by
  intro keeps
  obtain ⟨rfl, state, key, editing⟩ := drop
  have notDown : ¬ (before.stat (.box 0) = .focused ∧ input.msg = .downDown) := by
    simp [key]
  have switched : signalSwitch input before =
      .breaks ((before.reset [.box 0, .box 1]).leafExit []) := by
    simp only [signalSwitch, state, if_neg notDown, if_pos key]
  have retouched : Retouched input (before.reset [.box 0, .box 1])
      (BoxPage.signal.call clib input before).statics := by
    simp only [BoxPage.call, menuSignalSetup, switched, Flow.finish]
    exact editBoxes_retouched 2
  have unfocused : (BoxPage.signal.call clib input before).statics.stat (.box 0) = .unfocused :=
    (retouched.stat (.box 0)).unfocused (by simp)
  have stat : ((BoxPage.signal.call clib input before).statics.box 0).boxStat = .unfocused :=
    unfocused
  rcases (editing_iff 0).mp editing with modifing | saving
  · have after := keeps.modifing 0 modifing
    simp [stat] at after
  · have after := keeps.saving 0 saving
    simp [stat] at after

end Calls

/-- A page keeps its focus and its edits exactly as long as the first box of
`menu_signal_setup` is not edited when `KEY_DOWN_MENU` comes. -/
theorem pages_keepEdits_iff (clib : Clib) (page : BoxPage) (start : BoxPageStatics)
    (unopened : Unopened start) (inputs : List PageInput) :
    Run.AllSteps (pageStep clib page) (fun before input _ => KeepsEdits clib page before input)
        start inputs ↔
      Run.AllSteps (pageStep clib page) (fun before input _ => ¬ DropsEdit page before input)
        start inputs := by
  have preserved (before : BoxPageStatics) (input : PageInput) (after : BoxPageStatics)
      (settled : Settled page before) (stepped : pageStep clib page before input = some after) :
      Settled page after := by
    cases Option.some.inj stepped
    exact call_settled settled
  refine Run.allSteps_iff_of_invariant preserved ?_ inputs unopened.settled
  intro before input after settled _
  constructor
  · intro keeps drop
    exact signal_drops drop keeps
  · exact call_keepsEdits settled

section Instance

theorem blankPage_unopened : Unopened blankPage where
  setStat := rfl
  currSelect := by decide
  unfocused item := by
    cases item with
    | box => rfl
    | btn => rfl

def pressed (msg : KeyCode) : PageInput := ⟨msg, fun _ => .nan, fun _ => 0⟩

theorem pages_keepEdits_iff_linearCali :
    Unopened blankPage ∧
      (Run.AllSteps (pageStep plainClib .linearCali)
          (fun before input _ => KeepsEdits plainClib .linearCali before input) blankPage
          ([.none, .downDown, .downOk, .downMenu].map pressed) ↔
        Run.AllSteps (pageStep plainClib .linearCali)
          (fun before input _ => ¬ DropsEdit .linearCali before input) blankPage
          ([.none, .downDown, .downOk, .downMenu].map pressed)) :=
  ⟨blankPage_unopened, pages_keepEdits_iff plainClib .linearCali blankPage blankPage_unopened
    ([.none, .downDown, .downOk, .downMenu].map pressed)⟩

/-- The first box is edited, and `KEY_DOWN_MENU` leaves the page. -/
theorem signal_leaves_while_modifing :
    ¬ ∀ (clib : Clib) (page : BoxPage) (start : BoxPageStatics) (inputs : List PageInput),
      Unopened start → Run.AllSteps (pageStep clib page)
        (fun before input _ => KeepsEdits clib page before input) start inputs := by
  intro always
  have all := always plainClib .signal blankPage
    ([KeyCode.none, .downDown, .downOk].map pressed ++ [pressed .downMenu]) blankPage_unopened
  have found : (Run.run (pageStep plainClib .signal) blankPage
      ([KeyCode.none, .downDown, .downOk].map pressed)).map (fun statics =>
        (statics.setStat, (statics.box 0).editing)) = some (2, true) := by
    decide +kernel
  obtain ⟨before, ran, shown⟩ := Option.map_eq_some_iff.mp found
  obtain ⟨state, editing⟩ := Prod.mk.inj shown
  have drop : DropsEdit .signal before (pressed .downMenu) := ⟨rfl, state, rfl, editing⟩
  exact signal_drops drop (all.last ran rfl)

end Instance

end ZhuoduControl.Menu.BoxPages
