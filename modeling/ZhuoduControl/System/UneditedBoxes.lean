import ZhuoduControl.Menu.QuietCalls
import ZhuoduControl.System.UneditedSaves

/-! A number box that is edited and saved without a change. -/

set_option autoImplicit false

namespace ZhuoduControl.System

open ZhuoduControl.Library
open ZhuoduControl.Library.DecimalText
open ZhuoduControl.Data
open ZhuoduControl.Settings (E2PField cFactorySetting)
open ZhuoduControl.Menu.Box
open ZhuoduControl.Menu.BoxPages
open ZhuoduControl.Menu.Edit
open ZhuoduControl.Menu.Frame

/-- The box has the number and the bounds that it was opened with. -/
def Held (opened : NumberBox) (stat : BoxStat) (box : NumberBox) : Prop :=
  ∃ y isShow setIndex setBuf, box = { opened with
    y := y, isShow := isShow, boxStat := stat, setIndex := setIndex, setBuf := setBuf }

/-- While the box is edited its text shows the number. -/
structure BoxShown (opened : NumberBox) (stat : BoxStat) (box : NumberBox) : Prop where
  held : Held opened stat box
  text : stat ≠ .focused → Shows box (readNumber opened)

section Box

variable {clib : Clib} {uninit : Number} {opened box after : NumberBox} {stat : BoxStat}
variable {config : BoxConfig}

theorem Held.setUp (held : Held opened stat box) (setUp : SetUp config opened) : SetUp config box := by
  obtain ⟨_, _, _, _, rfl⟩ := held
  exact ⟨setUp.boxWidth, setUp.dataWidth, setUp.dataType, setUp.min, setUp.max⟩

theorem Held.within (held : Held opened stat box) (within : Within opened) : Within box := by
  obtain ⟨_, _, _, _, rfl⟩ := held
  exact within

theorem Held.isReadonly (held : Held opened stat box) : box.isReadonly = opened.isReadonly := by
  obtain ⟨_, _, _, _, rfl⟩ := held
  rfl

theorem Held.readNumber (held : Held opened stat box) : readNumber box = readNumber opened := by
  obtain ⟨_, _, _, _, rfl⟩ := held
  rfl

theorem BoxShown.moved (shown : BoxShown opened stat box) (same : Placed box after) :
    BoxShown opened stat after := by
  obtain ⟨⟨_, _, setIndex, setBuf, rfl⟩, text⟩ := shown
  obtain ⟨y, isShow, rfl⟩ := same
  exact ⟨⟨y, isShow, setIndex, setBuf, rfl⟩, text⟩

theorem BoxShown.boxStat (shown : BoxShown opened stat box) : box.boxStat = stat := by
  obtain ⟨⟨_, _, _, _, rfl⟩, _⟩ := shown
  rfl

theorem BoxShown.start (focused : opened.boxStat = .focused) : BoxShown opened .focused opened := by
  refine ⟨⟨opened.y, opened.isShow, opened.setIndex, opened.setBuf, ?_⟩, fun edited => absurd rfl edited⟩
  rw [← focused]

/-- A call without a key leaves the number as it is. -/
theorem BoxShown.waits (shown : BoxShown opened stat box) (editor : stat ≠ .unfocused) :
    BoxShown opened stat (box.edit clib .none uninit) := by
  have same := shown.boxStat
  have edited := box.edited clib .none uninit
  generalize box.edit clib .none uninit = after at edited
  cases edited with
  | unfocused closed => exact absurd (same.symm.trans closed) editor
  | focused focused =>
      obtain ⟨⟨y, isShow, _, _, rfl⟩, _⟩ := shown
      cases focused
      exact ⟨⟨y, isShow, 0, _, rfl⟩, fun edited => absurd rfl edited⟩
  | idles => exact shown
  | waits => exact shown

theorem pageBoxes_known (page : BoxPage) : ∀ config ∈ page.configs, config ∈ pageBoxes := by
  cases page <;> decide +kernel

/-- `KEY_DOWN_OK` begins an edit with a text that shows the number. -/
theorem BoxShown.opens (shown : BoxShown opened .focused box) (setUp : SetUp config opened)
    (known : config ∈ pageBoxes) (writable : opened.isReadonly = false)
    (within : Within opened) :
    BoxShown opened .modifing (box.edit clib .downOk uninit) := by
  have held := shown.held
  have opens : box.edit clib .downOk uninit =
      { box.display.print box.editText with boxStat := .modifing } := by
    unfold NumberBox.edit
    rw [shown.boxStat]
    exact if_pos ⟨rfl, held.isReadonly.trans writable⟩
  rw [opens]
  refine ⟨?_, fun _ => ?_⟩
  · obtain ⟨y, isShow, _, _, rfl⟩ := held
    exact ⟨y, isShow, 0, _, rfl⟩
  · rw [← held.readNumber]
    exact opened_shows (held.setUp setUp) known (held.within within).finite
      (editText_shown (held.setUp setUp) known (held.within within))

theorem BoxShown.asks (shown : BoxShown opened .modifing box) :
    BoxShown opened .saving (box.edit clib .downMenu uninit) := by
  obtain ⟨⟨y, isShow, setIndex, setBuf, rfl⟩, text⟩ := shown
  exact ⟨⟨y, isShow, setIndex, setBuf, rfl⟩, fun _ => text (by decide)⟩

theorem BoxShown.saves (shown : BoxShown opened .saving box) :
    box.edit clib .downMenu uninit = { box.save clib uninit with boxStat := .focused } := by
  have stat := shown.boxStat
  unfold NumberBox.edit
  rw [stat]

theorem BoxShown.saved_iff (sound : clib.Sound) (shown : BoxShown opened .saving box) :
    shownBits (box.save clib uninit) = shownBits opened ↔ BoxReadsBack clib opened := by
  have same : shownBits (box.save clib uninit) = shownBits box ↔ _ :=
    save_shown sound (shown.text (by decide))
  obtain ⟨⟨y, isShow, setIndex, setBuf, rfl⟩, _⟩ := shown
  exact same

end Box

section Pages

variable {clib : Clib} {station before after : Station} {input : TurnInput} {func : PageFunc}
variable {page : BoxPage} {index : Nat} {stat : BoxStat}

def boxInput (station : Station) (input : TurnInput) : PageInput :=
  ⟨input.key, input.uninitBox, station.world.zhuodu⟩

/-- What a pass makes of a page with boxes. -/
structure BoxTurn (station : Station) (func : PageFunc) (page : BoxPage) (pass : PagePass)
    (after : Station) : Prop where
  world : after.world = station.world.performAll pass.ops
  boxes : after.boxes page = pass.statics
  again : pass.exits = [] → after.menu.active = some func
  left : pass.exits ≠ [] → after.menu.frame.menuStatus = .node

theorem boxPage_turn (boxes : boxPageOf func = some page) (called : station.menu.active = some func)
    (turned : turn clib station input = some after) :
    BoxTurn station func page (page.call clib (boxInput station input) (station.boxes page))
      after := by
  have body := boxPageOf_boxes boxes
  have call : boxCall clib station input func =
      some (page.call clib (boxInput station input) (station.boxes page)) := by
    unfold boxCall
    rw [boxes]
    rfl
  have same : prepared func station.world = station.world := by
    refine prepared_other ?_
    rintro rfl
    cases boxes
  have result : runPage (turnPass clib station input func) station.menu.statics (pageBody func) =
      ⟨station.menu.statics, leave (turnPass clib station input func).exits, false⟩ := by
    rw [body]
    rfl
  have exits : (turnPass clib station input func).exits =
      !(page.call clib (boxInput station input) (station.boxes page)).exits.isEmpty := by
    unfold turnPass
    dsimp only
    rw [call]
    rfl
  have passed := turn_page called (by rw [result]) (by rw [result]; exact leave_calls _) turned
  generalize page.call clib (boxInput station input) (station.boxes page) = pass at *
  refine ⟨?_, ?_, fun empty => passed.again ?_, fun some_exit => passed.left ?_⟩
  · rw [passed.world]
    unfold pageWrites
    rw [body, call, same]
  · rw [passed.boxes]
    unfold boxesAfter
    rw [if_pos boxes, call]
    rfl
  · rw [result, exits, empty]
    rfl
  · rw [result, exits]
    cases left : pass.exits with
    | nil => exact absurd left some_exit
    | cons => rfl

/-- The page is as it was when it was opened, but for the state of the box. -/
structure BoxStage (func : PageFunc) (page : BoxPage) (index : Nat) (before : Station)
    (stat : BoxStat) (station : Station) : Prop where
  called : station.menu.active = some func
  world : station.world = before.world
  settled : Settled page (station.boxes page)
  entered : (station.boxes page).setStat ≠ 0
  designates : designated page (station.boxes page) = some (.box index)
  box : BoxShown ((before.boxes page).box index) stat ((station.boxes page).box index)

theorem BoxStage.quiet (stage : BoxStage func page index before stat station)
    (key : input.key = .none ∨ input.key = .downOk ∨ (input.key = .downMenu ∧ stat ≠ .focused))
    (stays : input.key = .downMenu → ¬ (page = .signal ∧ index = 0) ∧
      ¬ (page = .canbiZhuodu ∧ stat = .saving)) :
    Quiet page index (station.boxes page) (boxInput station input) := by
  have same : (station.boxes page).stat (.box index) = stat := stage.box.boxStat
  refine ⟨stage.settled, stage.entered, stage.designates, ?_, ?_⟩
  · rw [same]
    exact key
  · rw [same]
    exact stays

theorem BoxStage.passes (boxes : boxPageOf func = some page)
    (stage : BoxStage func page index before stat station)
    (quiet : Quiet page index (station.boxes page) (boxInput station input))
    (turned : turn clib station input = some after) :
    after.world = before.world ∧
      Placed (((station.boxes page).box index).edit clib input.key (input.uninitBox index))
        ((after.boxes page).box index) ∧
      ∀ next, BoxShown ((before.boxes page).box index) next
          (((station.boxes page).box index).edit clib input.key (input.uninitBox index)) →
        BoxStage func page index before next after := by
  have passed := boxPage_turn boxes stage.called turned
  have edits := quiet.editsOnly clib
  have settled : Settled page
      (page.call clib (boxInput station input) (station.boxes page)).statics :=
    call_settled stage.settled
  have designates := (edits.designates page).trans stage.designates
  rw [← passed.boxes] at settled designates
  have placed := edits.box
  rw [← passed.boxes] at placed
  have world : after.world = before.world := by
    rw [passed.world, edits.ops]
    exact stage.world
  refine ⟨world, placed, fun next shown => ?_⟩
  refine ⟨passed.again edits.exits, world, settled, ?_, designates, shown.moved placed⟩
  rw [passed.boxes, edits.setStat]
  exact stage.entered

theorem BoxStage.waits (boxes : boxPageOf func = some page) (editor : stat ≠ .unfocused)
    (stage : BoxStage func page index before stat station) (none : input.key = .none)
    (turned : turn clib station input = some after) :
    BoxStage func page index before stat after := by
  have quiet := stage.quiet (.inl none) fun menu => nomatch none.symm.trans menu
  refine (stage.passes boxes quiet turned).2.2 _ ?_
  rw [none]
  exact stage.box.waits editor

theorem BoxStage.opens (boxes : boxPageOf func = some page)
    (opened : BoxOpened page index before.world.zhuodu (before.boxes page))
    (stage : BoxStage func page index before .focused station) (ok : input.key = .downOk)
    (turned : turn clib station input = some after) :
    BoxStage func page index before .modifing after := by
  obtain ⟨config, listed, setUp⟩ := opened.setUp
  have known := pageBoxes_known page config (List.mem_of_getElem? listed)
  have quiet := stage.quiet (.inr (.inl ok)) fun menu => nomatch ok.symm.trans menu
  refine (stage.passes boxes quiet turned).2.2 _ ?_
  rw [ok]
  exact stage.box.opens setUp known opened.writable opened.within

theorem BoxStage.asks (boxes : boxPageOf func = some page) (other : ¬ (page = .signal ∧ index = 0))
    (stage : BoxStage func page index before .modifing station) (menu : input.key = .downMenu)
    (turned : turn clib station input = some after) :
    BoxStage func page index before .saving after := by
  have quiet := stage.quiet (.inr (.inr ⟨menu, nofun⟩)) fun _ => ⟨other, fun leaves => nomatch leaves.2⟩
  refine (stage.passes boxes quiet turned).2.2 _ ?_
  rw [menu]
  exact stage.box.asks

theorem BoxOpened.stage (called : before.menu.active = some func)
    (opened : BoxOpened page index before.world.zhuodu (before.boxes page)) :
    BoxStage func page index before .focused before where
  called := called
  world := rfl
  settled := opened.settled
  entered := opened.entered
  designates := opened.designates
  box := .start opened.focused

/-- What the last key makes of a page that asks whether to save. -/
structure BoxSaved (clib : Clib) (page : BoxPage) (index : Nat) (before : Station)
    (saving : NumberBox) (uninit : Number) (after : Station) : Prop where
  box : shownBits ((after.boxes page).box index) = shownBits (saving.save clib uninit)
  world : page ≠ .canbiZhuodu → after.world = before.world
  sends : page = .canbiZhuodu → after.world =
    before.world.performAll (Menu.menuCanbiZhuodu (saving.save clib uninit).setFloat)

theorem BoxStage.saves (boxes : boxPageOf func = some page) (other : ¬ (page = .signal ∧ index = 0))
    (stage : BoxStage func page index before .saving station) (menu : input.key = .downMenu)
    (turned : turn clib station input = some after) :
    BoxSaved clib page index before ((station.boxes page).box index) (input.uninitBox index)
      after := by
  by_cases leaves : page = .canbiZhuodu
  · subst leaves
    obtain rfl := singleBox_index (.inl rfl) stage.designates
    have passed := boxPage_turn boxes stage.called turned
    have keyed : (boxInput station input).msg = .downMenu := menu
    obtain ⟨ops, box⟩ := canbiZhuodu_saves clib stage.entered keyed stage.box.boxStat
    refine ⟨?_, fun stays => absurd rfl stays, fun _ => ?_⟩
    · rw [passed.boxes, box]
      rfl
    · rw [passed.world, ops, stage.world]
      rfl
  · have quiet := stage.quiet (.inr (.inr ⟨menu, nofun⟩))
      fun _ => ⟨other, fun single => leaves single.1⟩
    obtain ⟨world, ⟨y, isShow, placed⟩, _⟩ := stage.passes boxes quiet turned
    refine ⟨?_, fun _ => world, fun single => absurd single leaves⟩
    rw [placed, menu, stage.box.saves]
    rfl

theorem box_confirmed {inputs : List TurnInput} (boxes : boxPageOf func = some page)
    (called : before.menu.active = some func)
    (opened : BoxOpened page index before.world.zhuodu (before.boxes page))
    (other : ¬ (page = .signal ∧ index = 0))
    (presses : Presses [.downOk, .downMenu, .downMenu] inputs)
    (ran : Run.run (turn clib) before inputs = some after) :
    ∃ saving uninit, BoxShown ((before.boxes page).box index) .saving saving ∧
      BoxSaved clib page index before saving uninit after := by
  have waits (stat : BoxStat) (editor : stat ≠ .unfocused) :
      ∀ state input next, BoxStage func page index before stat state → input.key = .none →
        turn clib state input = some next → BoxStage func page index before stat next :=
    fun _ _ _ stage none turned => stage.waits boxes editor none turned
  have start := opened.stage called
  obtain ⟨_, _, _, _, stage, key, turned, presses, ran⟩ :=
    presses.next (waits .focused nofun) start ran
  have modifing := stage.opens boxes opened key turned
  obtain ⟨_, _, _, _, stage, key, turned, presses, ran⟩ :=
    presses.next (waits .modifing nofun) modifing ran
  have saving := stage.asks boxes other key turned
  obtain ⟨_, _, _, _, stage, key, turned, presses, ran⟩ :=
    presses.next (waits .saving nofun) saving ran
  cases presses.ended ran
  exact ⟨_, _, stage.box, stage.saves boxes other key turned⟩

/-- A list is shown, and nothing has been saved. -/
structure Listed (page : BoxPage) (index : Nat) (before station : Station) : Prop where
  listing : station.menu.frame.menuStatus = .node
  world : station.world = before.world
  box : shownBits ((station.boxes page).box index) = shownBits ((before.boxes page).box index)

theorem Listed.waits (listed : Listed page index before station) (none : input.key = .none)
    (turned : turn clib station input = some after) : Listed page index before after := by
  have outside := active_of_list listed.listing
  obtain ⟨world, boxes⟩ := turn_list outside turned
  refine ⟨?_, world.trans listed.world, by rw [boxes, listed.box]⟩
  unfold turn at turned
  rw [outside] at turned
  obtain ⟨menu, stepped, rfl⟩ := Option.map_eq_some_iff.mp turned
  unfold Menu.Edit.menuStep frameStep menuMain at stepped
  rw [listed.listing] at stepped
  dsimp only at stepped
  rw [none] at stepped
  cases Option.some.inj stepped
  exact listed.listing

/-- The first box of `menu_signal_setup` is left with the first `KEY_DOWN_MENU`. -/
theorem signal_confirmed {inputs : List TurnInput} (boxes : boxPageOf func = some .signal)
    (called : before.menu.active = some func)
    (opened : BoxOpened .signal 0 before.world.zhuodu (before.boxes .signal))
    (presses : Presses [.downOk, .downMenu, .downMenu] inputs)
    (ran : Run.run (turn clib) before inputs = some after) :
    after.world = before.world ∧
      shownBits ((after.boxes .signal).box 0) = shownBits ((before.boxes .signal).box 0) := by
  have waits (stat : BoxStat) (editor : stat ≠ .unfocused) :
      ∀ state input next, BoxStage func .signal 0 before stat state → input.key = .none →
        turn clib state input = some next → BoxStage func .signal 0 before stat next :=
    fun _ _ _ stage none turned => stage.waits boxes editor none turned
  have idles : ∀ state input next, Listed .signal 0 before state → input.key = .none →
      turn clib state input = some next → Listed .signal 0 before next :=
    fun _ _ _ listed none turned => listed.waits none turned
  have start := opened.stage called
  obtain ⟨_, _, _, _, stage, key, turned, presses, ran⟩ :=
    presses.next (waits .focused nofun) start ran
  have modifing := stage.opens boxes opened key turned
  obtain ⟨station, input, next, _, stage, key, turned, presses, ran⟩ :=
    presses.next (waits .modifing nofun) modifing ran
  have state : (station.boxes .signal).setStat = 2 := by
    rcases twoBoxes_states (.inr rfl) stage.designates with ⟨state, _⟩ | ⟨_, second⟩
    · exact state
    · cases second
  have passed := boxPage_turn boxes stage.called turned
  have keyed : (boxInput station input).msg = .downMenu := key
  obtain ⟨ops, exits, box⟩ := signal_leaves clib state keyed
  have listed : Listed .signal 0 before next := by
    refine ⟨passed.left exits, ?_, ?_⟩
    · rw [passed.world, ops]
      exact stage.world
    · rw [passed.boxes, box]
      obtain ⟨⟨_, _, _, _, held⟩, _⟩ := stage.box
      rw [held]
      rfl
  obtain ⟨_, _, _, _, listed, key, turned, presses, ran⟩ := presses.next idles listed ran
  cases presses.ended ran
  obtain ⟨world, boxes⟩ := turn_list (active_of_list listed.listing) turned
  exact ⟨world.trans listed.world, by rw [boxes, listed.box]⟩

end Pages

section Confirmed

variable {clib : Clib} {before after : Station} {func : PageFunc} {page : BoxPage} {index : Nat}

theorem boxPage_free {device : Settings.Device} (boxes : boxPageOf func = some page) :
    Consistent func device := by
  refine consistent_free ?_ ?_
  · cases func <;> first | rfl | cases boxes
  · rintro rfl
    cases boxes

theorem canbiZhuodu_kept_iff {saving : NumberBox} {uninit : Number}
    (opened : BoxOpened .canbiZhuodu index before.world.zhuodu (before.boxes .canbiZhuodu))
    (shown : BoxShown ((before.boxes .canbiZhuodu).box index) .saving saving)
    (sends : after.world =
      before.world.performAll (Menu.menuCanbiZhuodu (saving.save clib uninit).setFloat)) :
    Kept .menuCanbiZhuodu before.world after.world ↔
      shownBits (saving.save clib uninit) = shownBits ((before.boxes .canbiZhuodu).box index) := by
  obtain rfl := singleBox_index (.inl rfl) opened.designates
  obtain ⟨config, listed, setUp⟩ := opened.setUp
  cases listed
  have float : (saving.save clib uninit).dataType = .float := by
    rw [(saving.save_kept clib uninit).1]
    exact (shown.held.setUp setUp).dataType
  have bits : shownBits (saving.save clib uninit) = (saving.save clib uninit).setFloat := by
    unfold shownBits
    rw [float]
  have own : shownBits ((before.boxes .canbiZhuodu).box 0) =
      before.world.zhuodu.readFloat .a1k1 := opened.reads _ rfl
  have sent : SendsFloat .a1k1 (saving.save clib uninit).setFloat
      (Menu.menuCanbiZhuodu (saving.save clib uninit).setFloat) := .assigns 279 rfl
  rw [sends, bits, own]
  exact sent.kept_iff rfl rfl

theorem box_unedited_iff {inputs : List TurnInput} (sound : clib.Sound)
    (called : before.menu.active = some func) (boxes : boxPageOf func = some page)
    (opened : BoxOpened page index before.world.zhuodu (before.boxes page))
    (presses : Presses [.downOk, .downMenu, .downMenu] inputs)
    (ran : Run.run (turn clib) before inputs = some after) :
    Unedited func index before after ↔ SavesBack clib func index before := by
  have noNumber {args : GlobalDef → SetIntFloat} (body : pageBody func = .number args) : False := by
    cases (boxPageOf_boxes boxes).symm.trans body
  have only (property : BoxPage → Prop) (here : property page) (other : BoxPage)
      (same : boxPageOf func = some other) : property other := by
    cases boxes.symm.trans same
    exact here
  by_cases dropped : page = .signal ∧ index = 0
  · obtain ⟨rfl, rfl⟩ := dropped
    obtain ⟨world, box⟩ := signal_confirmed boxes called opened presses ran
    refine iff_of_true ⟨.of_eq world, only _ box⟩ ⟨boxPage_free boxes, ?_, ?_⟩
    · exact fun _ body => (noNumber body).elim
    · exact only _ fun kept => absurd ⟨rfl, rfl⟩ kept
  · obtain ⟨saving, uninit, shown, saved⟩ := box_confirmed boxes called opened dropped presses ran
    have back : shownBits ((after.boxes page).box index) = shownBits ((before.boxes page).box index) ↔
        BoxReadsBack clib ((before.boxes page).box index) := by
      rw [saved.box]
      exact shown.saved_iff sound
    constructor
    · intro unedited
      refine ⟨boxPage_free boxes, fun _ body => (noNumber body).elim, ?_⟩
      exact only _ fun _ => back.mp (unedited.box page boxes)
    · intro saves
      have box := back.mpr (saves.box page boxes dropped)
      refine ⟨?_, only _ box⟩
      by_cases sends : page = .canbiZhuodu
      · subst sends
        obtain rfl : func = .menuCanbiZhuodu := by
          cases func <;> cases boxes
          rfl
        exact (canbiZhuodu_kept_iff opened shown (saved.sends rfl)).mpr (saved.box.symm.trans box)
      · exact .of_eq (saved.world sends)

end Confirmed

theorem SavesBack.of_other {clib : Clib} {func : PageFunc} {index : Nat} {station : Station}
    (boxless : boxPageOf func = none) :
    SavesBack clib func index station ↔ Consistent func station.world.device ∧
      ∀ args, pageBody func = .number args → ReadsBack (args station.world.device.global) := by
  constructor
  · exact fun saves => ⟨saves.consistent, saves.number⟩
  · rintro ⟨consistent, number⟩
    refine ⟨consistent, number, fun page boxes => ?_⟩
    cases boxless.symm.trans boxes

theorem Unedited.of_other {func : PageFunc} {index : Nat} {before after : Station}
    (boxless : boxPageOf func = none) :
    Unedited func index before after ↔ Kept func before.world after.world := by
  refine ⟨Unedited.world, fun kept => ⟨kept, fun page boxes => ?_⟩⟩
  cases boxless.symm.trans boxes

/-- A page that is opened and confirmed changes nothing exactly if its setting is stored as it
is and its text reads back. -/
theorem unedited_iff (clib : Clib) (sound : clib.Sound) (func : PageFunc) (index : Nat)
    (before after : Station) (called : before.menu.active = some func)
    (opened : Opened func index before) (inputs : List TurnInput)
    (presses : Presses (confirmKeys func) inputs)
    (ran : Run.run (turn clib) before inputs = some after) :
    Unedited func index before after ↔ SavesBack clib func index before := by
  cases opened with
  | select body idle inRange points =>
      have other : boxPageOf func = none := boxPageOf_none (by rw [body]; exact nofun)
      rw [confirmKeys, other] at presses
      obtain ⟨world, _⟩ := select_confirmed body called idle points presses ran
      rw [Unedited.of_other other, SavesBack.of_other other, world, select_kept_iff body inRange points]
      refine ⟨fun consistent => ⟨consistent, fun _ number => ?_⟩, And.left⟩
      cases body.symm.trans number
  | number body idle inRange rational =>
      have other : boxPageOf func = none := boxPageOf_none (by rw [body]; exact nofun)
      rw [confirmKeys, other] at presses
      obtain ⟨⟨stale, uninit, world⟩, _⟩ := number_confirmed body called idle presses ran
      rw [Unedited.of_other other, SavesBack.of_other other, world, number_kept_iff body inRange]
      refine and_congr_right fun _ => ⟨fun reads _ number => ?_, fun reads => reads _ body⟩
      cases body.symm.trans number
      exact reads
  | current body idle =>
      have other : boxPageOf func = none := boxPageOf_none (by rw [body]; exact nofun)
      rw [confirmKeys, other] at presses
      obtain ⟨world, _⟩ := current_confirmed body called idle presses ran
      have consistent : Consistent func before.world.device := by
        refine consistent_free ?_ ?_
        · cases func <;> first | rfl | cases body
        · rintro rfl
          cases body
      rw [Unedited.of_other other, SavesBack.of_other other]
      refine iff_of_true (.of_eq world) ⟨consistent, fun _ number => ?_⟩
      cases body.symm.trans number
  | box boxes opened =>
      rw [confirmKeys, boxes] at presses
      exact box_unedited_iff sound called boxes opened presses ran

section Booted

variable {clib : Clib} {station after : Station} {input : TurnInput}

/-- The pages with boxes are settled between any two passes. -/
theorem turn_settled (settled : ∀ page, Settled page (station.boxes page))
    (turned : turn clib station input = some after) : ∀ page, Settled page (after.boxes page) := by
  intro page
  unfold turn at turned
  cases called : station.menu.active with
  | none =>
      rw [called] at turned
      obtain ⟨menu, _, rfl⟩ := Option.map_eq_some_iff.mp turned
      exact settled page
  | some func =>
      rw [called] at turned
      dsimp only at turned
      split at turned
      · cases Option.some.inj turned
        exact blankPage_unopened.settled
      · obtain ⟨menu, _, rfl⟩ := Option.map_eq_some_iff.mp turned
        change Settled page (boxesAfter clib station input func page)
        unfold boxesAfter
        split
        · rename_i boxes
          rw [boxCall, boxes]
          exact call_settled (settled page)
        · exact settled page

theorem run_settled {image : Memory U8} {inputs : List TurnInput}
    (ran : Run.run (turn clib) (boot image) inputs = some after) :
    ∀ page, Settled page (after.boxes page) :=
  Run.invariant_of_run (fun _ _ _ settled turned => turn_settled settled turned)
    (fun _ => blankPage_unopened.settled) ran

end Booted

section Instance

def keyed (key : KeyCode) : TurnInput := ⟨key, [], .nan, 0, fun _ => .nan, 0⟩

/-- The keys from the page of the root to node 0.6.0. -/
def relayTestKeys : List TurnInput :=
  [.downOk, .downDown, .downDown, .downDown, .downDown, .downDown, .downDown, .downOk,
    .downOk].map keyed

def sessions : List Session := [.select, .number, .password, .current .mA4, .current .mA20]

theorem idle_of_sessions {statics : Statics}
    (free : (sessions.all fun session => !statics.raised session) = true) :
    Menu.Edit.Idle statics := by
  have unraised := List.all_eq_true.mp free
  intro session
  have listed : session ∈ sessions := by
    cases session with
    | select => decide
    | number => decide
    | password => decide
    | current page => cases page <;> decide
  simpa using unraised session listed

theorem confirm_presses : Presses (confirmKeys .menuRelayTest) ([.downMenu, .downMenu].map keyed) :=
  .takes rfl (.takes rfl .done)

def isRelayTest (station : Station) : U8 := station.world.device.global.isRelayTest

/-- The page of the relay test, opened behind a start and confirmed. -/
theorem relayTest_reached (image : Memory U8) {backlight test : U8} (entry : backlight.toNat < 2)
    (found : (Run.run (turn plainClib) (boot image) relayTestKeys).map (fun station =>
      (station.menu.active, sessions.all (fun session => !station.menu.statics.raised session),
        station.world.device.global.backlight, isRelayTest station)) =
          some (some .menuRelayTest, true, backlight, 0))
    (ended : (Run.run (turn plainClib) (boot image)
      (relayTestKeys ++ [.downMenu, .downMenu].map keyed)).map isRelayTest = some test) :
    ∃ before after, Run.run (turn plainClib) (boot image) relayTestKeys = some before ∧
      before.menu.active = some .menuRelayTest ∧ Opened .menuRelayTest 0 before ∧
      Run.run (turn plainClib) before ([.downMenu, .downMenu].map keyed) = some after ∧
      before.world.device.global.backlight = backlight ∧ isRelayTest before = 0 ∧
      isRelayTest after = test := by
  obtain ⟨after, ran, final⟩ := Option.map_eq_some_iff.mp ended
  obtain ⟨before, began, last⟩ := Run.run_append_some ran
  rw [began] at found
  obtain ⟨active, rest⟩ := Prod.mk.inj (Option.some.inj found)
  obtain ⟨free, settings⟩ := Prod.mk.inj rest
  obtain ⟨shown, off⟩ := Prod.mk.inj settings
  refine ⟨before, after, began, active, ?_, last, shown, off, final⟩
  refine .select rfl (idle_of_sessions free) ?_ nofun
  show before.world.device.global.backlight.toNat < 2
  rw [shown]
  exact entry

/-- The keys that unlock the service menu, open node 1.3.1, set the reference turbidity to 2 and
open the node again. -/
def canbiZhuoduKeys : List TurnInput :=
  [.downMenuAndOk, .downOk, .downUp, .downMenu, .downDown, .downDown, .downDown, .downOk,
    .downDown, .downOk, .none, .downOk, .downUp, .downMenu, .downMenu, .downOk, .none].map keyed

/-- The page shows the reference turbidity 2. -/
structure ShowsTwo (station : Station) : Prop where
  active : station.menu.active = some .menuCanbiZhuodu
  entered : (station.boxes .canbiZhuodu).setStat = 1
  config : ((station.boxes .canbiZhuodu).box 0).toBoxConfig = canbiZhuoduBox
  focused : ((station.boxes .canbiZhuodu).box 0).boxStat = .focused
  writable : ((station.boxes .canbiZhuodu).box 0).isReadonly = false
  setFloat : ((station.boxes .canbiZhuodu).box 0).setFloat = 0x40000000
  a1k1 : station.world.zhuodu.readFloat .a1k1 = 0x40000000

instance (station : Station) : Decidable (ShowsTwo station) :=
  decidable_of_iff (station.menu.active = some .menuCanbiZhuodu ∧
      (station.boxes .canbiZhuodu).setStat = 1 ∧
      ((station.boxes .canbiZhuodu).box 0).toBoxConfig = canbiZhuoduBox ∧
      ((station.boxes .canbiZhuodu).box 0).boxStat = .focused ∧
      ((station.boxes .canbiZhuodu).box 0).isReadonly = false ∧
      ((station.boxes .canbiZhuodu).box 0).setFloat = 0x40000000 ∧
      station.world.zhuodu.readFloat .a1k1 = 0x40000000)
    ⟨fun ⟨active, entered, config, focused, writable, setFloat, a1k1⟩ =>
      ⟨active, entered, config, focused, writable, setFloat, a1k1⟩,
    fun ⟨active, entered, config, focused, writable, setFloat, a1k1⟩ =>
      ⟨active, entered, config, focused, writable, setFloat, a1k1⟩⟩

section ShowsTwo

variable {station : Station}

theorem ShowsTwo.dataType (two : ShowsTwo station) :
    ((station.boxes .canbiZhuodu).box 0).dataType = .float :=
  congrArg BoxConfig.dataType two.config

theorem ShowsTwo.shownBits (two : ShowsTwo station) :
    shownBits ((station.boxes .canbiZhuodu).box 0) = 0x40000000 := by
  unfold Menu.BoxPages.shownBits
  rw [two.dataType]
  exact two.setFloat

theorem ShowsTwo.within (two : ShowsTwo station) :
    Within ((station.boxes .canbiZhuodu).box 0) := by
  refine ⟨2, ?_, ?_, ?_⟩
  · unfold NumberBox.number
    rw [two.dataType, two.setFloat]
    dsimp only
    decide +kernel
  · rw [two.config]
    decide +kernel
  · rw [two.config]
    decide +kernel

theorem ShowsTwo.readNumber (two : ShowsTwo station) :
    readNumber ((station.boxes .canbiZhuodu).box 0) = 2 := by
  unfold System.readNumber cutNumber
  rw [two.dataType, two.setFloat, two.config]
  dsimp only
  decide +kernel

theorem ShowsTwo.readsBack (two : ShowsTwo station) (clib : Clib) :
    BoxReadsBack clib ((station.boxes .canbiZhuodu).box 0) := by
  intro _ _
  rw [two.shownBits, two.readNumber]
  unfold takenBits
  rw [two.dataType]
  dsimp only
  decide +kernel

theorem ShowsTwo.opened (two : ShowsTwo station)
    (settled : Settled .canbiZhuodu (station.boxes .canbiZhuodu)) :
    Opened .menuCanbiZhuodu 0 station := by
  refine .box rfl ⟨settled, ?_, rfl, two.focused, ?_, two.writable, ?_, two.within, ?_⟩
  · rw [two.entered]
    decide
  · refine ⟨canbiZhuoduBox, rfl, ?_⟩
    rw [← two.config]
    exact ⟨rfl, rfl, rfl, rfl, rfl⟩
  · intro bits read
    rw [two.shownBits, ← two.a1k1]
    exact Option.some.inj read
  · rw [two.setFloat]
    decide

end ShowsTwo

/-- The relay test at the factory settings, and a reference turbidity that was changed before. -/
theorem unedited_iff_factory :
    (∃ before after, Run.run (turn plainClib) (boot cFactorySetting) relayTestKeys = some before ∧
      Opened .menuRelayTest 0 before ∧
      Run.run (turn plainClib) before ([.downMenu, .downMenu].map keyed) = some after ∧
      Unedited .menuRelayTest 0 before after) ∧
    ∃ before after, Run.run (turn plainClib) (boot cFactorySetting) canbiZhuoduKeys = some before ∧
      Opened .menuCanbiZhuodu 0 before ∧
      Run.run (turn plainClib) before ([.downOk, .downMenu, .downMenu].map keyed) = some after ∧
      Unedited .menuCanbiZhuodu 0 before after := by
  constructor
  · obtain ⟨before, after, began, active, opened, ran, shown, off, _⟩ :=
      relayTest_reached cFactorySetting (by decide : (0 : U8).toNat < 2) (by decide +kernel)
        (by decide +kernel : _ = some (0 : U8))
    refine ⟨before, after, began, opened, ran, ?_⟩
    refine (unedited_iff plainClib plainClib_sound .menuRelayTest 0 before after active opened _
      confirm_presses ran).mpr ⟨⟨nofun, nofun, fun _ => ?_⟩, nofun, nofun⟩
    rw [shown]
    exact off
  · have reached : ((Run.run (turn plainClib) (boot cFactorySetting)
        (canbiZhuoduKeys ++ [.downOk, .downMenu, .downMenu].map keyed)).isSome) = true := by
      decide +kernel
    have found : (Run.run (turn plainClib) (boot cFactorySetting) canbiZhuoduKeys).map
        (fun station => decide (ShowsTwo station)) = some true := by
      decide +kernel
    obtain ⟨after, all⟩ := Option.isSome_iff_exists.mp reached
    obtain ⟨before, began, ran⟩ := Run.run_append_some all
    rw [began] at found
    have two : ShowsTwo before := of_decide_eq_true (Option.some.inj found)
    have opened := two.opened (run_settled began .canbiZhuodu)
    refine ⟨before, after, began, opened, ran, ?_⟩
    refine (unedited_iff plainClib plainClib_sound .menuCanbiZhuodu 0 before after two.active
      opened _ (.takes rfl (.takes rfl (.takes rfl .done))) ran).mpr ⟨⟨nofun, nofun, nofun⟩, nofun, ?_⟩
    intro page boxes _
    cases boxes
    exact two.readsBack plainClib

/-- The factory settings with the backlight on. -/
def litImage : Memory U8 := E2PField.backlight.write 1 cFactorySetting

theorem relayTest_switched_on :
    ¬ ∀ (clib : Clib) (func : PageFunc) (index : Nat) (image : Memory U8)
      (keys inputs : List TurnInput) (before after : Station), clib.Sound →
        Run.run (turn clib) (boot image) keys = some before →
        before.menu.active = some func → Opened func index before →
        Presses (confirmKeys func) inputs → Run.run (turn clib) before inputs = some after →
        Unedited func index before after := by
  intro always
  obtain ⟨before, after, began, active, opened, ran, _, off, on⟩ :=
    relayTest_reached litImage (by decide : (1 : U8).toNat < 2) (by decide +kernel)
      (by decide +kernel : _ = some (1 : U8))
  have unedited := always plainClib .menuRelayTest 0 litImage relayTestKeys _ before after
    plainClib_sound began active opened confirm_presses ran
  have same : isRelayTest after = isRelayTest before :=
    congrArg GlobalDef.isRelayTest unedited.world.global
  rw [on, off] at same
  exact absurd same (by decide)

end Instance

end ZhuoduControl.System
