import ZhuoduControl.System.MenuTables
import ZhuoduControl.System.UneditedTexts

/-! A page that is opened and confirmed without a change. -/

set_option autoImplicit false

namespace ZhuoduControl.System

open ZhuoduControl.Library
open ZhuoduControl.Library.DecimalText
open ZhuoduControl.Data
open ZhuoduControl.Modbus
open ZhuoduControl.Settings (Device Persisted savePage sixDigits)
open ZhuoduControl.Menu (MenuOp numCali rangeSel)
open ZhuoduControl.Menu.Box
open ZhuoduControl.Menu.BoxPages
open ZhuoduControl.Menu.Edit
open ZhuoduControl.Menu.Frame

/-- The keys that confirm what a page shows. -/
def confirmKeys (func : PageFunc) : List KeyCode :=
  match boxPageOf func with
  | some _ => [.downOk, .downMenu, .downMenu]
  | none => [.downMenu, .downMenu]

/-- Passes without a key may come between the keys. -/
def Presses (keys : List KeyCode) (inputs : List TurnInput) : Prop :=
  Run.Scripted (fun input : TurnInput => input.key = .none)
    (fun (key : KeyCode) (input : TurnInput) => input.key = key) keys inputs

/-- The box has the focus, and shows what `global` has for it, inside the bounds. -/
structure BoxOpened (page : BoxPage) (index : Nat) (zhuodu : Zhuodu) (statics : BoxPageStatics) :
    Prop where
  settled : Settled page statics
  entered : statics.setStat ≠ 0
  designates : designated page statics = some (.box index)
  focused : (statics.box index).boxStat = .focused
  setUp : ∃ config, page.configs[index]? = some config ∧ SetUp config (statics.box index)
  writable : (statics.box index).isReadonly = false
  reads : ∀ bits, page.numbers zhuodu index = some bits → shownBits (statics.box index) = bits
  within : Within (statics.box index)
  /-- there is no negative zero among the rational numbers -/
  rational : (statics.box index).setFloat ≠ 0x80000000

/-- A page with a setting in the range that it declares, before its first call; a page with
boxes has the focus on one of them. -/
inductive Opened (func : PageFunc) (index : Nat) (station : Station) : Prop
  | select {args} (body : pageBody func = .select args) (idle : Menu.Edit.Idle station.menu.statics)
      (inRange : (args station.world.device.global).currIndex <
        (args station.world.device.global).array.length)
      (points : func = .menuLinearCaliPoint → 2 ≤ numCali station.world.zhuodu)
  | number {args} (body : pageBody func = .number args) (idle : Menu.Edit.Idle station.menu.statics)
      (inRange : (args station.world.device.global).InRange)
      (rational : (args station.world.device.global).setData ≠ .float 0x80000000)
  | current {page own} (body : pageBody func = .current page own)
      (idle : Menu.Edit.Idle station.menu.statics)
  | box {page} (body : boxPageOf func = some page)
      (box : BoxOpened page index station.world.zhuodu (station.boxes page))

def segRangeField (zhuodu : Zhuodu) : Field :=
  match rangeSel zhuodu with
  | 1 => .segRange2
  | 2 => .segRange3
  | 3 => .segRange4
  | _ => .segRange1

def zeroField (zhuodu : Zhuodu) : Field :=
  match rangeSel zhuodu with
  | 1 => .b2
  | 2 => .b3
  | 3 => .b4
  | _ => .b1

/-- The setting that a page queues when it is confirmed. -/
def queuedField (func : PageFunc) (zhuodu : Zhuodu) : Option Field :=
  match func with
  | .menuRangeSelect => some .rangeSel
  | .menuLinearCaliPoint => some .numCali
  | .menuRangeSetup => some (segRangeField zhuodu)
  | .menuZeroCompensate => some (zeroField zhuodu)
  | .menuCanbiZhuodu => some .a1k1
  | _ => none

/-- Settings and FRAM are as they were, and only the old value of the setting was queued.
The state of the relay test is a member of `global`. -/
structure Kept (func : PageFunc) (before after : PageWorld) : Prop where
  global : after.device.global = before.device.global
  fram : after.device.fram = before.device.fram
  queued : ∃ sent, after.queued = before.queued ++ sent ∧ ∀ msg ∈ sent,
    (queuedField func before.zhuodu).map before.zhuodu.read = some msg.dat

structure Unedited (func : PageFunc) (index : Nat) (before after : Station) : Prop where
  world : Kept func before.world after.world
  box : ∀ page, boxPageOf func = some page →
    shownBits ((after.boxes page).box index) = shownBits ((before.boxes page).box index)

/-- The setting that a page stores whenever it is confirmed; `menu_backlight_setup` compares
first. -/
def storedBy : PageFunc → Option Persisted
  | .menuUnit => some .unit
  | .menuRelay1AlarmSel => some .relay1AlarmType
  | .menuRelay1AlarmValue => some .relay1AlarmVal
  | .menuRelay1AlarmDelay => some .relay1AlarmDelay
  | .menuRelay2AlarmSel => some .relay2AlarmType
  | .menuRelay2AlarmValue => some .relay2AlarmVal
  | .menuRelay2AlarmDelay => some .relay2AlarmDelay
  | .menuCleanInterval => some .cleanInterval
  | .menuCleanTime => some .cleanTime
  | .menuRs485Baud => some .commBaud
  | .menuRs485Check => some .commParity
  | .menuRs485Id => some .commDeviceId
  | .menuTempCompensate => some .tempCompensate
  | .menuSerialNoSetup => some .serialNo
  | .menuPasswordSetup => some .password
  | _ => none

/-- The text of the password belongs to it, and the relay test is on exactly if the entry of
`backlight`, which its page shows, is the second one. -/
structure Consistent (func : PageFunc) (device : Device) : Prop where
  stored : ∀ setting, storedBy func = some setting →
    setting.field.stored device.fram = setting.read device.global
  password : func = .menuPasswordSetup →
    device.global.passwordBuf = sixDigits device.global.password.toNat
  relayTest : func = .menuRelayTest →
    device.global.isRelayTest = if device.global.backlight = 1 then 1 else 0

/-- What an unedited save needs. -/
structure SavesBack (clib : Clib) (func : PageFunc) (index : Nat) (station : Station) : Prop where
  consistent : Consistent func station.world.device
  number : ∀ args, pageBody func = .number args → ReadsBack (args station.world.device.global)
  /-- the page of the signals leaves its first box before it is saved -/
  box : ∀ page, boxPageOf func = some page → ¬ (page = .signal ∧ index = 0) →
    BoxReadsBack clib ((station.boxes page).box index)

section Turns

variable {clib : Clib} {station after : Station} {input : TurnInput} {func : PageFunc}

/-- What a pass makes of a page that does not restart the program. -/
structure PageTurn (clib : Clib) (station : Station) (input : TurnInput) (func : PageFunc)
    (after : Station) : Prop where
  world : after.world = pageWrites clib station input func
  boxes : after.boxes = boxesAfter clib station input func
  statics : after.menu.statics =
    (runPage (turnPass clib station input func) station.menu.statics (pageBody func)).statics
  again : (runPage (turnPass clib station input func) station.menu.statics (pageBody func)).calls = [] →
    after.menu.active = some func
  left : (runPage (turnPass clib station input func) station.menu.statics (pageBody func)).calls =
    [.leafExit] → after.menu.frame.menuStatus = .node

theorem leaf_of_active {menu : MenuState} (called : menu.active = some func) :
    menu.frame.menuStatus = .leaf := by
  cases status : menu.frame.menuStatus with
  | leaf => rfl
  | node =>
      rw [active_of_list status] at called
      cases called

theorem turn_page (called : station.menu.active = some func)
    (runs : (runPage (turnPass clib station input func) station.menu.statics
      (pageBody func)).reset = false)
    (calls : (runPage (turnPass clib station input func) station.menu.statics
        (pageBody func)).calls = [] ∨
      (runPage (turnPass clib station input func) station.menu.statics
        (pageBody func)).calls = [.leafExit])
    (turned : turn clib station input = some after) : PageTurn clib station input func after := by
  have leaf := leaf_of_active called
  unfold turn at turned
  rw [called] at turned
  dsimp only at turned
  rw [if_neg (by rw [runs]; decide)] at turned
  obtain ⟨menu, stepped, rfl⟩ := Option.map_eq_some_iff.mp turned
  rw [menuStep_page leaf called runs] at stepped
  rcases calls with none_called | leaves
  · rw [none_called, frameStep_nil leaf] at stepped
    cases Option.some.inj stepped
    refine ⟨rfl, rfl, rfl, fun _ => called, fun leaves => ?_⟩
    rw [none_called] at leaves
    cases leaves
  · rw [leaves, frameStep_call leaf rfl] at stepped
    cases Option.some.inj stepped
    refine ⟨rfl, rfl, rfl, fun none_called => ?_, fun _ => rfl⟩
    rw [leaves] at none_called
    cases none_called

end Turns

section Select

variable {clib : Clib} {station before after : Station} {input : TurnInput} {func : PageFunc}
variable {args : GlobalDef → SelectArgs}

theorem prepared_same {world : PageWorld}
    (points : func = .menuLinearCaliPoint → 2 ≤ numCali world.zhuodu) :
    prepared func world = world := by
  refine if_neg ?_
  rintro ⟨page, few⟩
  exact absurd (points page) (Nat.not_le_of_lt few)

theorem prepared_other {world : PageWorld} (other : func ≠ .menuLinearCaliPoint) :
    prepared func world = world := prepared_same fun page => absurd page other

theorem boxPageOf_boxes {page : BoxPage} (boxes : boxPageOf func = some page) :
    pageBody func = .boxes := by
  cases func <;> first | rfl | cases boxes

theorem boxPageOf_none (other : pageBody func ≠ .boxes) : boxPageOf func = none := by
  cases boxes : boxPageOf func with
  | none => rfl
  | some page => exact absurd (boxPageOf_boxes boxes) other

theorem boxesAfter_same (other : boxPageOf func = none) :
    boxesAfter clib station input func = station.boxes := by
  funext page
  refine if_neg ?_
  rw [other]
  exact nofun

theorem pageWrites_select (body : pageBody func = .select args) :
    pageWrites clib station input func =
      afterSelect func (setSelect input.key (args (prepared func station.world).device.global)
        input.stray station.menu.statics).2 (prepared func station.world) := by
  unfold pageWrites
  rw [body]

theorem selectMenu_asks {statics : Statics} (unprompted : statics.select.flag = false) :
    selectMenu statics = (statics.withSelect { statics.select with flag := true }, .ing) :=
  if_neg (by rw [unprompted]; decide)

theorem selectMenu_confirms {statics : Statics} (prompted : statics.select.flag = true) :
    (selectMenu statics).2 = .ok statics.select.eeVal := by
  rw [selectMenu, if_pos prompted]

/-- The page shows the entry that is set, with or without the prompt. -/
structure SelectShown (func : PageFunc) (args : GlobalDef → SelectArgs) (before : Station)
    (prompted : Bool) (station : Station) : Prop where
  called : station.menu.active = some func
  world : station.world = before.world
  boxes : station.boxes = before.boxes
  select : (beginSelect (args before.world.device.global) station.menu.statics).select =
    ⟨true, prompted, (args before.world.device.global).currIndex % 256⟩

theorem SelectShown.turn (body : pageBody func = .select args)
    (points : func = .menuLinearCaliPoint → 2 ≤ numCali before.world.zhuodu) {prompted : Bool}
    (shown : SelectShown func args before prompted station)
    (turned : turn clib station input = some after) :
    after.boxes = before.boxes ∧
      (input.key = .none → SelectShown func args before prompted after) ∧
      (input.key = .downMenu → prompted = false → SelectShown func args before true after) ∧
      (input.key = .downMenu → prompted = true → after.world = afterSelect func
        (.ok ((args before.world.device.global).currIndex % 256)) before.world) := by
  obtain ⟨called, world, boxes, select⟩ := shown
  have other : boxPageOf func = none := boxPageOf_none (by rw [body]; exact nofun)
  have same : prepared func station.world = before.world := by
    rw [world]
    exact prepared_same points
  have result : runPage (turnPass clib station input func) station.menu.statics (pageBody func) =
      selectPage (args before.world.device.global) (turnPass clib station input func)
        station.menu.statics := by
    rw [body, ← same]
    rfl
  have page := turn_page called (by rw [result]; rfl) (by rw [result]; exact leave_calls _) turned
  have writes := page.world.trans (pageWrites_select body)
  have statics := page.statics
  have again := page.again
  rw [same] at writes
  rw [result] at statics again
  have opened : (openSelect (args before.world.device.global) input.stray
      station.menu.statics).select =
        ⟨true, prompted, (args before.world.device.global).currIndex % 256⟩ := select
  have left : after.boxes = before.boxes := by
    rw [page.boxes, boxesAfter_same other, boxes]
  have goes_on {edited : Statics} {flag : Bool}
      (stays : setSelect input.key (args before.world.device.global) input.stray
        station.menu.statics = (edited, .ing))
      (open_still : edited.select =
        ⟨true, flag, (args before.world.device.global).currIndex % 256⟩) :
      SelectShown func args before flag after := by
    have kept : after.menu.statics = edited := statics.trans (congrArg Prod.fst stays)
    refine ⟨again ?_, ?_, left, ?_⟩
    · exact congrArg (fun result : Statics × Menu.Edit.SetStat Nat => leave result.2.leaves) stays
    · rw [writes, stays]
      rfl
    · rw [kept, beginSelect, if_pos (by rw [open_still]), open_still]
  refine ⟨left, fun key => ?_, fun key unprompted => ?_, fun key confirmed => ?_⟩
  · refine goes_on ?_ opened
    rw [key]
    rfl
  · have asks : setSelect input.key (args before.world.device.global) input.stray
        station.menu.statics =
          ((openSelect (args before.world.device.global) input.stray station.menu.statics).withSelect
            ⟨true, true, (args before.world.device.global).currIndex % 256⟩, .ing) := by
      rw [key]
      refine (selectMenu_asks ?_).trans ?_
      · rw [opened]
        exact unprompted
      · rw [opened]
    exact goes_on asks rfl
  · have ok : (setSelect input.key (args before.world.device.global) input.stray
        station.menu.statics).2 = .ok ((args before.world.device.global).currIndex % 256) := by
      rw [key]
      refine (selectMenu_confirms ?_).trans ?_
      · rw [opened]
        exact confirmed
      · rw [opened]
    rw [writes, ok]

/-- A page with a choice that is only confirmed ends with the entry that it began with. -/
theorem select_confirmed {inputs : List TurnInput} (body : pageBody func = .select args)
    (called : before.menu.active = some func) (idle : Menu.Edit.Idle before.menu.statics)
    (points : func = .menuLinearCaliPoint → 2 ≤ numCali before.world.zhuodu)
    (presses : Presses [.downMenu, .downMenu] inputs)
    (ran : Run.run (turn clib) before inputs = some after) :
    after.world = afterSelect func (.ok ((args before.world.device.global).currIndex % 256))
        before.world ∧
      after.boxes = before.boxes := by
  have waits (prompted : Bool) : ∀ state input next, SelectShown func args before prompted state →
      input.key = .none → turn clib state input = some next →
        SelectShown func args before prompted next :=
    fun _ _ _ shown none turned => (shown.turn body points turned).2.1 none
  have closed : before.menu.statics.select.flag1st = false := idle .select
  have start : SelectShown func args before false before := by
    refine ⟨called, rfl, rfl, ?_⟩
    rw [beginSelect, closed, if_neg Bool.false_ne_true]
  obtain ⟨first, input, prompted, later, shown, key, turned, presses, ran⟩ :=
    presses.next (waits false) start ran
  have asked := (shown.turn body points turned).2.2.1 key rfl
  obtain ⟨second, other, final, rest, shown, key, turned, presses, ran⟩ :=
    presses.next (waits true) asked ran
  cases presses.ended ran
  have ended := shown.turn body points turned
  exact ⟨ended.2.2.2 key rfl, ended.1⟩

end Select

section Number

variable {clib : Clib} {station before after : Station} {input : TurnInput} {func : PageFunc}
variable {args : GlobalDef → SetIntFloat}

theorem pageWrites_number (body : pageBody func = .number args) {world : PageWorld}
    (same : prepared func station.world = world) :
    pageWrites clib station input func = afterNumber func input.mbAddr
      (setIntFloatMinMax input.key (args world.device.global) input.uninitReal
        { station.menu.statics with setIntFloat := args world.device.global }).2 world := by
  unfold pageWrites
  rw [body, same]

structure TextShown (own : SetIntFloat) (prompted : Bool) (opened : Statics) : Prop where
  flag1st : opened.number.flag1st = true
  state : opened.number.state = prompted
  text : setText opened.sSetBuf = own.text

theorem openNumber_open {own : SetIntFloat} {statics : Statics}
    (flag1st : statics.number.flag1st = true) : openNumber own statics = (statics, true) :=
  if_pos flag1st

theorem openNumber_flag1st (own : SetIntFloat) (statics : Statics) :
    (openNumber own statics).1.number.flag1st = true := by
  unfold openNumber
  split
  · next raised => exact raised
  · dsimp only
    split
    · rfl
    · rfl

/-- The page shows the number that is set, with or without the prompt. -/
structure NumberShown (func : PageFunc) (own : SetIntFloat) (before : Station)
    (prompted : Bool) (station : Station) : Prop where
  called : station.menu.active = some func
  world : station.world = before.world
  boxes : station.boxes = before.boxes
  shown : TextShown own prompted
    (openNumber own { station.menu.statics with setIntFloat := own }).1

theorem NumberShown.turn (body : pageBody func = .number args) {prompted : Bool}
    (shown : NumberShown func (args before.world.device.global) before prompted station)
    (turned : turn clib station input = some after) :
    after.boxes = before.boxes ∧
      (input.key = .none →
        NumberShown func (args before.world.device.global) before prompted after) ∧
      (input.key = .downMenu → prompted = false →
        NumberShown func (args before.world.device.global) before true after) ∧
      (input.key = .downMenu → prompted = true →
        after.world = afterNumber func input.mbAddr
          (checkNumber (args before.world.device.global) input.uninitReal
            (bytesChars (args before.world.device.global).text)) before.world) := by
  obtain ⟨called, world, boxes, text⟩ := shown
  have sound := pageBody_sound func
  rw [body] at sound
  have other : boxPageOf func = none := boxPageOf_none (by rw [body]; exact nofun)
  have same : prepared func station.world = before.world := by
    rw [world]
    refine prepared_other ?_
    rintro rfl
    cases body
  have result : runPage (turnPass clib station input func) station.menu.statics (pageBody func) =
      numberPage (args before.world.device.global) (turnPass clib station input func)
        station.menu.statics := by
    rw [body, ← same]
    rfl
  have page := turn_page called (by rw [result]; rfl) (by rw [result]; exact leave_calls _) turned
  have writes := page.world.trans (pageWrites_number body same)
  have statics := page.statics
  have again := page.again
  rw [result] at statics again
  have printed := sound before.world.device.global
  generalize args before.world.device.global = own at *
  have edits : setIntFloatMinMax input.key own input.uninitReal
      { station.menu.statics with setIntFloat := own } =
        numberKey input.key own input.uninitReal
          (openNumber own { station.menu.statics with setIntFloat := own }).1 :=
    if_pos (openNumber_goes_on printed _)
  generalize (openNumber own { station.menu.statics with setIntFloat := own }).1 = opened at *
  have left : after.boxes = before.boxes := by
    rw [page.boxes, boxesAfter_same other, boxes]
  have goes_on {edited : Statics} {flag : Bool}
      (stays : setIntFloatMinMax input.key own input.uninitReal
        { station.menu.statics with setIntFloat := own } = (edited, .ing))
      (open_still : TextShown own flag edited) : NumberShown func own before flag after := by
    have kept : after.menu.statics = edited := statics.trans (congrArg Prod.fst stays)
    refine ⟨again ?_, ?_, left, ?_⟩
    · exact congrArg
        (fun result : Statics × Menu.Edit.SetStat Number => leave result.2.leaves) stays
    · rw [writes, stays]
      rfl
    · have still : openNumber own { edited with setIntFloat := own } =
          ({ edited with setIntFloat := own }, true) := openNumber_open open_still.flag1st
      rw [kept, still]
      exact ⟨open_still.flag1st, open_still.state, open_still.text⟩
  refine ⟨left, fun key => ?_, fun key unprompted => ?_, fun key confirmed => ?_⟩
  · refine goes_on (edits.trans ?_) text
    rw [key]
    rfl
  · have asks : setIntFloatMinMax input.key own input.uninitReal
        { station.menu.statics with setIntFloat := own } =
          (opened.withNumber { opened.number with state := true }, .ing) := by
      rw [edits, key, numberKey, text.state, if_neg (by rw [unprompted]; decide)]
    exact goes_on asks ⟨text.flag1st, rfl, text.text⟩
  · rw [writes, edits, key, numberKey, text.state, if_pos confirmed, text.text]

theorem number_confirmed {inputs : List TurnInput} (body : pageBody func = .number args)
    (called : before.menu.active = some func) (idle : Menu.Edit.Idle before.menu.statics)
    (presses : Presses [.downMenu, .downMenu] inputs)
    (ran : Run.run (turn clib) before inputs = some after) :
    (∃ stale uninit, after.world = afterNumber func stale
        (checkNumber (args before.world.device.global) uninit
          (bytesChars (args before.world.device.global).text)) before.world) ∧
      after.boxes = before.boxes := by
  have waits (prompted : Bool) : ∀ state input next,
      NumberShown func (args before.world.device.global) before prompted state →
        input.key = .none → turn clib state input = some next →
          NumberShown func (args before.world.device.global) before prompted next :=
    fun _ _ _ shown none turned => (shown.turn body turned).2.1 none
  have sound := pageBody_sound func
  rw [body] at sound
  have fresh : FreshNumber (args before.world.device.global) before.menu.statics
      (openNumber (args before.world.device.global)
        { before.menu.statics with setIntFloat := args before.world.device.global }).1 :=
    openNumber_fresh (sound before.world.device.global) (idle .number) rfl rfl
  have start : NumberShown func (args before.world.device.global) before false before := by
    exact ⟨called, rfl, rfl, openNumber_flag1st _ _, fresh.state, fresh.text⟩
  obtain ⟨first, input, prompted, later, shown, key, turned, presses, ran⟩ :=
    presses.next (waits false) start ran
  have asked := (shown.turn body turned).2.2.1 key rfl
  obtain ⟨second, other, final, rest, shown, key, turned, presses, ran⟩ :=
    presses.next (waits true) asked ran
  cases presses.ended ran
  have ended := shown.turn body turned
  exact ⟨⟨_, _, ended.2.2.2 key rfl⟩, ended.1⟩

end Number

section Current

variable {clib : Clib} {station before after : Station} {input : TurnInput} {func : PageFunc}
variable {page : CurrentPage} {own : SetIntFloat}

theorem checkNumber_not_exit (args : SetIntFloat) (uninit : Number) (text : List Char) :
    checkNumber args uninit text ≠ .exit := by
  unfold checkNumber
  dsimp only
  split
  · exact nofun
  · exact nofun

theorem confirm_not_exit {key : KeyCode} (confirm : key = .none ∨ key = .downMenu)
    (printed : own.Printed) (uninit : Number) (statics : Statics) :
    (setIntFloatMinMax key own uninit statics).2 ≠ .exit := by
  have goes_on : setIntFloatMinMax key own uninit statics =
      numberKey key own uninit (openNumber own statics).1 := if_pos (openNumber_goes_on printed _)
  rw [goes_on]
  rcases confirm with rfl | rfl
  · intro same
    cases same
  · rw [numberKey]
    split
    · exact checkNumber_not_exit _ _ _
    · intro same
      cases same

/-- A current page keeps nothing but what its editor needs. -/
structure CurrentShown (func : PageFunc) (page : CurrentPage) (own : SetIntFloat)
    (before station : Station) : Prop where
  called : station.menu.active = some func
  world : station.world = before.world
  boxes : station.boxes = before.boxes
  owns : Owns (.current page own) station.menu.statics

theorem CurrentShown.turn (body : pageBody func = .current page own)
    (confirm : input.key = .none ∨ input.key = .downMenu)
    (shown : CurrentShown func page own before station)
    (turned : turn clib station input = some after) :
    CurrentShown func page own before after := by
  obtain ⟨called, world, boxes, owns⟩ := shown
  have sound := pageBody_sound func
  rw [body] at sound
  have handsOn := runPage_handsOn (turnPass clib station input func) sound owns
  have filled := openCurrent_setIntFloat owns
  have stays : (runPage (turnPass clib station input func) station.menu.statics
      (.current page own)).calls = [] ∧
        (runPage (turnPass clib station input func) station.menu.statics
          (.current page own)).reset = false := by
    have printed : (openCurrent page own station.menu.statics).setIntFloat.Printed := by
      rw [filled]
      exact sound
    have goes_on := confirm_not_exit confirm printed input.uninitReal
      (openCurrent page own station.menu.statics)
    show (currentPage page own _ _).calls = [] ∧ (currentPage page own _ _).reset = false
    unfold currentPage
    dsimp only
    split
    · next edited result => exact absurd (congrArg Prod.snd result) goes_on
    · exact ⟨rfl, rfl⟩
  rw [← body] at stays handsOn
  have other : boxPageOf func = none := boxPageOf_none (by rw [body]; exact nofun)
  have same : prepared func station.world = before.world := by
    rw [world]
    refine prepared_other ?_
    rintro rfl
    cases body
  have next := turn_page called stays.2 (.inl stays.1) turned
  refine ⟨next.again stays.1, ?_, ?_, ?_⟩
  · rw [next.world]
    unfold pageWrites
    rw [body, same]
  · rw [next.boxes, boxesAfter_same other, boxes]
  · rw [next.statics]
    exact body ▸ handsOn.owns

theorem current_confirmed {inputs : List TurnInput} (body : pageBody func = .current page own)
    (called : before.menu.active = some func) (idle : Menu.Edit.Idle before.menu.statics)
    (presses : Presses [.downMenu, .downMenu] inputs)
    (ran : Run.run (turn clib) before inputs = some after) :
    after.world = before.world ∧ after.boxes = before.boxes := by
  have waits : ∀ state input next, CurrentShown func page own before state →
      input.key = .none → turn clib state input = some next →
        CurrentShown func page own before next :=
    fun _ _ _ shown none turned => shown.turn body (.inl none) turned
  have start : CurrentShown func page own before before := ⟨called, rfl, rfl, idle.owns _⟩
  obtain ⟨first, input, prompted, later, shown, key, turned, presses, ran⟩ :=
    presses.next waits start ran
  obtain ⟨second, other, final, rest, shown, key, turned, presses, ran⟩ :=
    presses.next waits (shown.turn body (.inr key) turned) ran
  cases presses.ended ran
  have ended := shown.turn body (.inr key) turned
  exact ⟨ended.world, ended.boxes⟩

end Current

section Stored

variable {func : PageFunc} {world : PageWorld} {setting : Persisted} {retVal : Nat}

theorem assign_read (setting : Persisted) (global : GlobalDef)
    (printed : setting = .password → global.passwordBuf = sixDigits global.password.toNat) :
    setting.assign (setting.read global) global = global := by
  cases setting with
  | password =>
      have text := printed rfl
      cases global
      simp_all [Persisted.assign, Persisted.read]
  | _ =>
      cases global
      simp [Persisted.assign, Persisted.read]

theorem password_printed (value : Nat) (global : GlobalDef) :
    (Persisted.password.assign value global).passwordBuf =
      sixDigits (Persisted.password.assign value global).password.toNat := rfl

/-- An assignment and its write change nothing exactly if they repeat what is there. -/
theorem kept_store (fits : retVal < 256 ^ setting.field.size) :
    Kept func world (world.store (savePage setting) retVal) ↔
      retVal = setting.read world.device.global ∧
        setting.field.stored world.device.fram = setting.read world.device.global ∧
        (setting = .password →
          world.device.global.passwordBuf = sixDigits world.device.global.password.toNat) := by
  have read := Settings.savePage_read setting world.device fits
  have stored := Settings.savePage_stored setting world.device fits
  constructor
  · rintro ⟨global, fram, _⟩
    have sameGlobal : (savePage setting world.device retVal).global = world.device.global := global
    have sameFram : (savePage setting world.device retVal).fram = world.device.fram := fram
    rw [sameGlobal] at read
    rw [sameFram] at stored
    refine ⟨read.symm, stored.trans read.symm, ?_⟩
    rintro rfl
    have text := password_printed retVal world.device.global
    rw [← sameGlobal]
    exact text
  · rintro ⟨same, kept, printed⟩
    have global : (savePage setting world.device retVal).global = world.device.global := by
      rw [same]
      exact assign_read setting world.device.global printed
    refine ⟨global, ?_, [], (List.append_nil _).symm, fun _ member => nomatch member⟩
    show setting.field.write (setting.read (savePage setting world.device retVal).global)
      world.device.fram = world.device.fram
    rw [global, ← kept]
    exact setting.field.write_stored _

theorem consistent_stored {device : Device} (stores : storedBy func = some setting) :
    Consistent func device ↔ setting.field.stored device.fram = setting.read device.global ∧
      (setting = .password →
        device.global.passwordBuf = sixDigits device.global.password.toNat) := by
  have page : setting = .password ↔ func = .menuPasswordSetup := by
    cases func <;> cases stores <;> simp
  have noTest : func ≠ .menuRelayTest := by
    rintro rfl
    cases stores
  constructor
  · intro consistent
    exact ⟨consistent.stored setting stores, fun password => consistent.password (page.mp password)⟩
  · rintro ⟨stored, printed⟩
    refine ⟨fun other same => ?_, fun password => printed (page.mpr password), fun test => ?_⟩
    · cases stores.symm.trans same
      exact stored
    · exact absurd test noTest

theorem consistent_free {device : Device} (unstored : storedBy func = none)
    (noTest : func ≠ .menuRelayTest) : Consistent func device := by
  refine ⟨fun setting stores => ?_, fun password => ?_, fun test => absurd test noTest⟩
  · cases unstored.symm.trans stores
  · rw [password] at unstored
    cases unstored

end Stored

section Selected

variable {func : PageFunc} {world : PageWorld} {setting : Persisted} {args : GlobalDef → SelectArgs}

theorem Kept.refl (func : PageFunc) (world : PageWorld) : Kept func world world :=
  ⟨rfl, rfl, [], (List.append_nil _).symm, fun _ member => nomatch member⟩

theorem Kept.of_eq {after : PageWorld} (same : after = world) : Kept func world after := by
  rw [same]
  exact .refl func world

theorem stored_select {word : U8} (stores : storedBy func = some setting)
    (saves : ∀ retVal, saveSelected func retVal world = world.store (savePage setting) retVal.toNat)
    (own : setting.read world.device.global = word.toNat) (byte : setting.field.size = 1) :
    Kept func world (afterSelect func (.ok (word.toNat % 256)) world) ↔
      Consistent func world.device := by
  have small : word.toNat % 256 = word.toNat := Nat.mod_eq_of_lt word.isLt
  have retVal : (BitVec.ofNat 8 (word.toNat % 256)).toNat = setting.read world.device.global := by
    rw [small, BitVec.ofNat_toNat, BitVec.setWidth_eq, own]
  have fits : setting.read world.device.global < 256 ^ setting.field.size := by
    rw [own, byte]
    exact word.isLt
  show Kept func world (saveSelected func _ world) ↔ _
  rw [saves, retVal, kept_store fits, consistent_stored stores]
  exact ⟨fun kept => kept.2, fun kept => ⟨rfl, kept⟩⟩

/-- An assignment to the mirror and its message, both of the value that is there. -/
theorem kept_send {field : Field} {assigned : Setting} {msg : ModbusMsg} {after : PageWorld}
    (queues : queuedField func world.zhuodu = some field) (here : assigned.field = field)
    (same : assigned.value = world.zhuodu.read field) (dat : msg.dat = world.zhuodu.read field)
    (assigns : after.device = (world.assign assigned).device)
    (sends : after.queued = world.queued ++ [msg]) : Kept func world after := by
  have unchanged : world.zhuodu.assign assigned = world.zhuodu :=
    Zhuodu.assign_read _ (here.symm ▸ same)
  have device : after.device = world.device := by
    rw [assigns]
    show { world.device with
      global := { world.device.global with zhuoduData := world.zhuodu.assign assigned } } = _
    rw [unchanged]
    rfl
  refine ⟨by rw [device], by rw [device], [msg], sends, fun other member => ?_⟩
  rw [List.mem_singleton.mp member, queues, dat]
  rfl

theorem readHalf_read {zhuodu : Zhuodu} {field : Field} (half : field.width = .half) :
    zhuodu.read field = .half (zhuodu.readHalf field) := by
  rw [Zhuodu.read, half]
  rfl

theorem byte_kept (word : U8) : BitVec.ofNat 8 (word.toNat % 256) = word := by
  rw [Nat.mod_eq_of_lt word.isLt, BitVec.ofNat_toNat, BitVec.setWidth_eq]

theorem entry_kept {word : U16} (small : word.toNat < 256) :
    (BitVec.ofNat 8 (word.toNat % 256)).zeroExtend 16 = word := by
  apply BitVec.eq_of_toNat_eq
  rw [BitVec.toNat_setWidth, BitVec.toNat_ofNat]
  omega

theorem relayTest_kept_iff :
    Kept .menuRelayTest world (menuRelayTestPage
        (.ok (BitVec.ofNat 8 (world.device.global.backlight.toNat % 256))) world) ↔
      Consistent .menuRelayTest world.device := by
  rw [byte_kept]
  have unstored : Consistent .menuRelayTest world.device ↔
      world.device.global.isRelayTest = if world.device.global.backlight = 1 then 1 else 0 :=
    ⟨fun consistent => consistent.relayTest rfl, fun test => ⟨nofun, nofun, fun _ => test⟩⟩
  have global : (menuRelayTestPage (.ok world.device.global.backlight) world).device.global =
      { world.device.global with
        isRelayTest := if world.device.global.backlight = 1 then 1 else 0 } := by
    unfold menuRelayTestPage menuRelayTest
    dsimp only
    split <;> rfl
  rw [unstored]
  constructor
  · intro kept
    exact congrArg GlobalDef.isRelayTest (kept.global.symm.trans global)
  · intro test
    refine ⟨?_, rfl, [], (List.append_nil _).symm, fun _ member => nomatch member⟩
    rw [global, ← test]

theorem menuLinearCaliPoint_ops {zhuodu : Zhuodu} (retVal : U8) (points : 2 ≤ numCali zhuodu) :
    Menu.menuLinearCaliPoint zhuodu retVal =
      [.send (wordMsg 291 (retVal.zeroExtend 16 + 2)),
        .assign ⟨.numCali, .half (retVal.zeroExtend 16 + 2), Menu.numCali_half _⟩] := by
  unfold Menu.menuLinearCaliPoint
  rw [if_neg (Nat.not_lt.mpr points)]
  rfl

theorem select_kept_iff (body : pageBody func = .select args)
    (inRange : (args world.device.global).currIndex < (args world.device.global).array.length)
    (points : func = .menuLinearCaliPoint → 2 ≤ numCali world.zhuodu) :
    Kept func world (afterSelect func (.ok ((args world.device.global).currIndex % 256)) world) ↔
      Consistent func world.device := by
  cases func with
  | menuUnit => cases body; exact stored_select rfl (fun _ => rfl) rfl rfl
  | menuRelay1AlarmSel => cases body; exact stored_select rfl (fun _ => rfl) rfl rfl
  | menuRelay2AlarmSel => cases body; exact stored_select rfl (fun _ => rfl) rfl rfl
  | menuRs485Baud => cases body; exact stored_select rfl (fun _ => rfl) rfl rfl
  | menuRs485Check => cases body; exact stored_select rfl (fun _ => rfl) rfl rfl
  | menuBacklightSetup =>
      cases body
      refine iff_of_true ?_ (consistent_free rfl nofun)
      have same : world.store Settings.menuBacklightSetup
          (BitVec.ofNat 8 (world.device.global.backlight.toNat % 256)).toNat = world := by
        have retVal : (BitVec.ofNat 8 (world.device.global.backlight.toNat % 256)).toNat =
            Persisted.backlight.read world.device.global := by
          rw [byte_kept]
          rfl
        rw [retVal]
        exact congrArg (fun device => { world with device := device }) (if_pos rfl)
      exact .of_eq same
  | menuRelayTest =>
      cases body
      exact relayTest_kept_iff
  | menuRangeSelect =>
      cases body
      refine iff_of_true ?_ (consistent_free rfl nofun)
      have entry : (BitVec.ofNat 8 ((world.zhuodu.readHalf .rangeSel).toNat % 256)).zeroExtend 16 =
          world.zhuodu.readHalf .rangeSel := by
        have small : (world.zhuodu.readHalf .rangeSel).toNat < 4 := inRange
        exact entry_kept (by omega)
      have word : Value.half ((BitVec.ofNat 8
          ((world.zhuodu.readHalf .rangeSel).toNat % 256)).zeroExtend 16) =
            world.zhuodu.read .rangeSel := by
        rw [entry, readHalf_read rfl]
      exact kept_send rfl rfl word word rfl rfl
  | menuTempSelect =>
      cases body
      refine iff_of_true ?_ (consistent_free rfl nofun)
      have same : menuTempSelect (BitVec.ofNat 8 (world.device.global.tempSelect.toNat % 256)) world =
          world := by
        rw [byte_kept]
        exact if_pos rfl
      exact .of_eq same
  | menuLinearCaliPoint =>
      cases body
      refine iff_of_true ?_ (consistent_free rfl nofun)
      have least : 2 ≤ (world.zhuodu.readHalf .numCali).toNat := points rfl
      have most : (world.zhuodu.readHalf .numCali).toNat - 2 < 3 := inRange
      have entry : (BitVec.ofNat 8
          (((world.zhuodu.readHalf .numCali).toNat - 2) % 256)).zeroExtend 16 + 2 =
            world.zhuodu.readHalf .numCali := by
        apply BitVec.eq_of_toNat_eq
        rw [BitVec.toNat_add, BitVec.toNat_setWidth, BitVec.toNat_ofNat]
        show (_ + 2) % 2 ^ 16 = _
        omega
      have word : Value.half ((BitVec.ofNat 8
          (((world.zhuodu.readHalf .numCali).toNat - 2) % 256)).zeroExtend 16 + 2) =
            world.zhuodu.read .numCali := by
        rw [entry, readHalf_read rfl]
      show Kept _ world (world.performAll (Menu.menuLinearCaliPoint world.zhuodu _))
      rw [menuLinearCaliPoint_ops _ (points rfl)]
      exact kept_send rfl rfl word word rfl rfl
  | _ => cases body

end Selected

section Numbers

variable {func : PageFunc} {world : PageWorld} {setting : Persisted} {own : SetIntFloat}
variable {width : Nat} {stale : U16} {uninit : Number}

theorem toBits_unsigned {member : BitVec width} {value : Int} (lower : 0 ≤ value)
    (upper : value < 2 ^ width) :
    toBits width (.finite value) = member.toNat ↔ value = member.toNat := by
  have kept := unsigned_kept lower upper
  have small : toBits width (.finite value) < 2 ^ width := BitVec.isLt _
  rw [BitVec.toNat_ofNat, Nat.mod_eq_of_lt small] at kept
  constructor
  · intro same
    rw [← kept, same]
  · intro same
    exact Int.natCast_inj.mp (kept.trans same)

theorem toBits_signed {member : BitVec width} {value : Int} (some_bit : 0 < width)
    (lower : -2 ^ (width - 1) ≤ value) (upper : value < 2 ^ (width - 1)) :
    toBits width (.finite value) = member.toNat ↔ value = member.toInt := by
  have kept := signed_kept some_bit lower upper
  constructor
  · intro same
    rw [same, BitVec.ofNat_toNat, BitVec.setWidth_eq] at kept
    exact kept.symm
  · intro same
    have whole := BitVec.eq_of_toInt_eq (kept.trans same)
    rw [← whole, BitVec.toNat_ofNat]
    exact (Nat.mod_eq_of_lt (BitVec.isLt _)).symm

/-- The bounds of a page and the number that it has. -/
structure IntegerArgs (own : SetIntFloat) (dataType : DataType) (number low high : Int) : Prop where
  type : own.dataType = dataType
  integral : dataType.integral = true
  setData : own.setData = .integer number
  min : own.min = low
  max : own.max = high
  lower : -10 ^ (dataType.scanned - 1) < low
  int32 : int32Min ≤ low ∧ high ≤ int32Max
  positive : 10 ^ dataType.scanned ≤ high → low ≤ 1

theorem stored_number (dataType : DataType) (width : Nat) (low high : Int) {number : Int}
    (stores : storedBy func = some setting)
    (saves : ∀ retVal, saveNumber func stale retVal world =
      world.store (savePage setting) (toBits width retVal))
    (integer : IntegerArgs own dataType number low high) (inRange : own.InRange)
    (size : 2 ^ width = 256 ^ setting.field.size)
    (keeps : ∀ value : Int, low ≤ value → value ≤ high →
      (toBits width (.finite value) = setting.read world.device.global ↔ value = number)) :
    Kept func world (afterNumber func stale (checkNumber own uninit (bytesChars own.text)) world) ↔
      Consistent func world.device ∧ ReadsBack own := by
  obtain ⟨rfl, integral, setData, min, max, lowest, int32, positive⟩ := integer
  obtain ⟨value, same, lower, upper⟩ := inRange
  rw [setData] at same
  cases same
  rw [min] at lower
  rw [max] at upper
  have above : low ≤ number := Rat.intCast_le_intCast.mp lower
  have below : number ≤ high := Rat.intCast_le_intCast.mp upper
  have one : 10 ^ own.dataType.scanned ≤ number → own.min ≤ 1 := by
    intro long
    rw [min]
    exact_mod_cast positive (Int.le_trans long below)
  obtain ⟨shown, accepted, least, most, back⟩ := integral_unedited uninit integral setData
    ⟨Int.le_trans int32.1 above, Int.le_trans below int32.2⟩ (Int.lt_of_lt_of_le lowest above)
    (min ▸ lower) (max ▸ upper) one
  rw [min] at least
  rw [max] at most
  have repeats := keeps shown (Rat.intCast_le_intCast.mp least) (Rat.intCast_le_intCast.mp most)
  have fits : toBits width (.finite shown) < 256 ^ setting.field.size := by
    rw [← size]
    exact BitVec.isLt _
  rw [accepted]
  show Kept func world (saveNumber func stale _ world) ↔ _
  rw [saves, kept_store fits, consistent_stored stores, repeats, back]
  exact And.comm

/-- The bounds of a page with a `float` that has these bits. -/
structure FloatArgs (own : SetIntFloat) (bits : U32) (low high : Nat) : Prop where
  dataType : own.dataType = .float32
  setData : own.setData = .float bits
  min : own.min = -(low : Rat)
  max : own.max = high
  wide : low ≤ 10000 ∧ high ≤ 100000

theorem FloatArgs.accepted {bits : U32} {low high : Nat} (float : FloatArgs own bits low high)
    (inRange : own.InRange) (uninit : Number) :
    ∃ retVal, checkNumber own uninit (bytesChars own.text) = .ok retVal ∧
      (toFloat retVal = bits ↔ ReadsBack own) := by
  obtain ⟨count, accepted, back⟩ := float_unedited uninit float.dataType float.setData inRange
    float.min float.max float.wide
  exact ⟨_, accepted, back⟩

theorem stored_float (low high : Nat) {bits : U32} (stores : storedBy func = some setting)
    (saves : ∀ retVal, saveNumber func stale retVal world =
      world.store (savePage setting) (toFloat retVal).toNat)
    (float : FloatArgs own bits low high) (inRange : own.InRange)
    (size : setting.field.size = 4) (reads : setting.read world.device.global = bits.toNat) :
    Kept func world (afterNumber func stale (checkNumber own uninit (bytesChars own.text)) world) ↔
      Consistent func world.device ∧ ReadsBack own := by
  obtain ⟨retVal, accepted, back⟩ := float.accepted inRange uninit
  have fits : (toFloat retVal).toNat < 256 ^ setting.field.size := by
    rw [size]
    exact BitVec.isLt _
  rw [accepted]
  show Kept func world (saveNumber func stale _ world) ↔ _
  rw [saves, kept_store fits, consistent_stored stores, reads, BitVec.toNat_inj, back]
  exact And.comm

/-- A page that sends a `float`, and assigns it unless the range has no member for it. -/
inductive SendsFloat (field : Field) (bits : U32) : List MenuOp → Prop
  | sends (dataAddr : U16) : SendsFloat field bits [.send (floatMsg dataAddr bits)]
  | assigns (dataAddr : U16) (fits : (Value.float bits).width = field.width) :
      SendsFloat field bits [.assign ⟨field, .float bits, fits⟩, .send (floatMsg dataAddr bits)]

theorem SendsFloat.kept_iff {field : Field} {bits : U32} {ops : List MenuOp}
    (sent : SendsFloat field bits ops) (float : field.width = .float)
    (queues : queuedField func world.zhuodu = some field) :
    Kept func world (world.performAll ops) ↔ bits = world.zhuodu.readFloat field := by
  have read := world.zhuodu.read_float float
  have queued : ∃ dataAddr, (world.performAll ops).queued =
      world.queued ++ [floatMsg dataAddr bits] := by
    cases sent with
    | sends dataAddr => exact ⟨dataAddr, rfl⟩
    | assigns dataAddr fits => exact ⟨dataAddr, rfl⟩
  constructor
  · intro kept
    obtain ⟨messages, appended, old⟩ := kept.queued
    obtain ⟨dataAddr, one⟩ := queued
    obtain rfl := List.append_cancel_left (appended.symm.trans one)
    have same := old _ (.head _)
    rw [queues] at same
    exact Value.float.inj ((Option.some.inj same).symm.trans read)
  · intro same
    have value : Value.float bits = world.zhuodu.read field := by rw [read, same]
    cases sent with
    | sends dataAddr =>
        refine ⟨rfl, rfl, [_], rfl, fun msg member => ?_⟩
        rw [List.mem_singleton.mp member, queues, Option.map_some, ← value]
        rfl
    | assigns dataAddr fits => exact kept_send queues rfl value value rfl rfl

theorem sent_float (low high : Nat) {field : Field}
    (queues : queuedField func world.zhuodu = some field) (float : field.width = .float)
    (consistent : Consistent func world.device)
    (args : FloatArgs own (world.zhuodu.readFloat field) low high) (inRange : own.InRange)
    (saves : ∀ retVal, ∃ ops, saveNumber func stale retVal world = world.performAll ops ∧
      SendsFloat field (toFloat retVal) ops) :
    Kept func world (afterNumber func stale (checkNumber own uninit (bytesChars own.text)) world) ↔
      Consistent func world.device ∧ ReadsBack own := by
  obtain ⟨retVal, accepted, back⟩ := args.accepted inRange uninit
  obtain ⟨ops, saved, sent⟩ := saves retVal
  rw [accepted]
  show Kept func world (saveNumber func stale _ world) ↔ _
  rw [saved, sent.kept_iff float queues, back]
  exact ⟨fun reads => ⟨consistent, reads⟩, fun both => both.2⟩

theorem segRangeField_float (zhuodu : Zhuodu) : (segRangeField zhuodu).width = .float := by
  unfold segRangeField
  split <;> rfl

theorem zeroField_float (zhuodu : Zhuodu) : (zeroField zhuodu).width = .float := by
  unfold zeroField
  split <;> rfl

theorem menuRangeSetup_sends (zhuodu : Zhuodu) (stale : U16) (retVal : U32) :
    SendsFloat (segRangeField zhuodu) retVal (Menu.menuRangeSetup zhuodu stale retVal) := by
  unfold Menu.menuRangeSetup segRangeField
  rcases rangeSel zhuodu with _ | _ | _ | _ | _
  · exact .assigns _ rfl
  · exact .assigns _ rfl
  · exact .assigns _ rfl
  · exact .assigns _ rfl
  · exact .sends _

theorem menuZeroCompensate_sends (zhuodu : Zhuodu) (retVal : U32) :
    SendsFloat (zeroField zhuodu) retVal (Menu.menuZeroCompensate zhuodu retVal) := by
  unfold Menu.menuZeroCompensate zeroField
  rcases rangeSel zhuodu with _ | _ | _ | _ | _
  · exact .assigns _ rfl
  · exact .assigns _ rfl
  · exact .assigns _ rfl
  · exact .assigns _ rfl
  · exact .sends _

theorem number_kept_iff {args : GlobalDef → SetIntFloat} (body : pageBody func = .number args)
    (inRange : (args world.device.global).InRange) :
    Kept func world (afterNumber func stale (checkNumber (args world.device.global) uninit
        (bytesChars (args world.device.global).text)) world) ↔
      Consistent func world.device ∧ ReadsBack (args world.device.global) := by
  cases func with
  | menuRelay1AlarmValue =>
      cases body
      exact stored_float 10000 10000 rfl (fun _ => rfl) ⟨rfl, rfl, rfl, rfl, by decide⟩ inRange rfl rfl
  | menuRelay1AlarmDelay =>
      cases body
      exact stored_float 0 10000 rfl (fun _ => rfl) ⟨rfl, rfl, rfl, rfl, by decide⟩ inRange rfl rfl
  | menuRelay2AlarmValue =>
      cases body
      exact stored_float 10000 10000 rfl (fun _ => rfl) ⟨rfl, rfl, rfl, rfl, by decide⟩ inRange rfl rfl
  | menuRelay2AlarmDelay =>
      cases body
      exact stored_float 0 10000 rfl (fun _ => rfl) ⟨rfl, rfl, rfl, rfl, by decide⟩ inRange rfl rfl
  | menuRangeSetup =>
      cases body
      exact sent_float 0 100000 rfl (segRangeField_float world.zhuodu) (consistent_free rfl nofun)
        ⟨rfl, rfl, rfl, rfl, by decide⟩ inRange fun _ => ⟨_, rfl, menuRangeSetup_sends world.zhuodu stale _⟩
  | menuZeroCompensate =>
      cases body
      exact sent_float 0 10000 rfl (zeroField_float world.zhuodu) (consistent_free rfl nofun)
        ⟨rfl, rfl, rfl, rfl, by decide⟩ inRange fun _ => ⟨_, rfl, menuZeroCompensate_sends world.zhuodu _⟩
  | menuRs485Id =>
      cases body
      refine stored_number .int8 8 1 247 rfl (fun _ => rfl)
        ⟨rfl, rfl, rfl, rfl, rfl, by decide, by decide, by decide⟩ inRange rfl fun value lower upper => ?_
      exact toBits_unsigned (by omega) (by omega)
  | menuCleanInterval =>
      cases body
      refine stored_number .int32 32 1 999999999 rfl (fun _ => rfl)
        ⟨rfl, rfl, rfl, rfl, rfl, by decide, by decide, by decide⟩ inRange rfl fun value lower upper => ?_
      exact toBits_signed (by decide) (by omega) (by omega)
  | menuCleanTime =>
      cases body
      refine stored_number .int32 32 1 999999999 rfl (fun _ => rfl)
        ⟨rfl, rfl, rfl, rfl, rfl, by decide, by decide, by decide⟩ inRange rfl fun value lower upper => ?_
      exact toBits_signed (by decide) (by omega) (by omega)
  | menuTempCompensate =>
      cases body
      refine stored_number .int16 16 (-1000) 1000 rfl (fun _ => rfl)
        ⟨rfl, rfl, rfl, rfl, rfl, by decide, by decide, by decide⟩ inRange rfl fun value lower upper => ?_
      exact toBits_signed (by decide) (by omega) (by omega)
  | menuSerialNoSetup =>
      cases body
      refine stored_number .int32 32 0 999999 rfl (fun _ => rfl)
        ⟨rfl, rfl, rfl, rfl, rfl, by decide, by decide, by decide⟩ inRange rfl fun value lower upper => ?_
      exact toBits_unsigned (by omega) (by omega)
  | menuPasswordSetup =>
      cases body
      refine stored_number .int32 32 0 999999 rfl (fun _ => rfl)
        ⟨rfl, rfl, rfl, rfl, rfl, by decide, by decide, by decide⟩ inRange rfl fun value lower upper => ?_
      exact toBits_unsigned (by omega) (by omega)
  | _ => cases body

end Numbers

end ZhuoduControl.System
