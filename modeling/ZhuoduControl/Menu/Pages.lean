import ZhuoduControl.Data.Global
import ZhuoduControl.Menu.Editors
import ZhuoduControl.Menu.MenuTable

/-! The page functions of `s_Menu` with the editors they call, and the menu thread. -/

set_option autoImplicit false

namespace ZhuoduControl.Menu.Edit

open ZhuoduControl.Library
open ZhuoduControl.Data
open ZhuoduControl.Menu.Frame

/-- One pass of the menu thread. Other threads and the pages may have changed `global`;
`exits` tells whether a page with boxes leaves. -/
structure MenuPass where
  key : KeyCode
  global : GlobalDef
  stray : List U8
  uninitReal : DecimalText.Number
  uninit : Nat
  exits : Bool

inductive CurrentPage
  | mA4
  | mA20
deriving DecidableEq, Repr

/-- What a page function does on a call. -/
inductive PageBody
  | root
  | password
  | display
  | boxes
  | resetFactory
  | select (args : GlobalDef → SelectArgs)
  | number (args : GlobalDef → SetIntFloat)
  | current (page : CurrentPage) (own : SetIntFloat)

def texts (array : List String) : List (List U8) :=
  array.map fun text => text.toUTF8.toList.map UInt8.toBitVec

def menuUnit : PageBody := .select fun global =>
  ⟨texts ["NTU", "mg/L"], global.unit.toNat⟩

def menuRelay1AlarmSel : PageBody := .select fun global =>
  ⟨texts ["低报警", "高报警"], global.relay1AlarmType.toNat⟩

def menuRelay1AlarmValue : PageBody := .number fun global =>
  ⟨.float32, .float global.relay1AlarmVal, -10000, 10000⟩

def menuRelay1AlarmDelay : PageBody := .number fun global =>
  ⟨.float32, .float global.relay1AlarmDelay, 0, 10000⟩

def menuRelay2AlarmSel : PageBody := .select fun global =>
  ⟨texts ["低报警", "高报警"], global.relay2AlarmType.toNat⟩

def menuRelay2AlarmValue : PageBody := .number fun global =>
  ⟨.float32, .float global.relay2AlarmVal, -10000, 10000⟩

def menuRelay2AlarmDelay : PageBody := .number fun global =>
  ⟨.float32, .float global.relay2AlarmDelay, 0, 10000⟩

def menuCleanInterval : PageBody := .number fun global =>
  ⟨.int32, .integer global.cleanInterval.toInt, 1, 999999999⟩

def menuCleanTime : PageBody := .number fun global =>
  ⟨.int32, .integer global.cleanTime.toInt, 1, 999999999⟩

def menuRangeSetup : PageBody := .number fun global =>
  let field : Field := match (global.zhuoduData.readHalf .rangeSel).toNat with
    | 1 => .segRange2
    | 2 => .segRange3
    | 3 => .segRange4
    | _ => .segRange1
  ⟨.float32, .float (global.zhuoduData.readFloat field), 0, 100000⟩

def menuRangeSelect : PageBody := .select fun global =>
  ⟨texts ["0", "1", "2", "3"], (global.zhuoduData.readHalf .rangeSel).toNat⟩

def menuZeroCompensate : PageBody := .number fun global =>
  let field : Field := match (global.zhuoduData.readHalf .rangeSel).toNat with
    | 1 => .b2
    | 2 => .b3
    | 3 => .b4
    | _ => .b1
  ⟨.float32, .float (global.zhuoduData.readFloat field), 0, 10000⟩

/-- Fewer than two points are set to two before the call. -/
def menuLinearCaliPoint : PageBody := .select fun global =>
  ⟨texts ["2", "3", "4"], (global.zhuoduData.readHalf .numCali).toNat - 2⟩

def menu4mACali : PageBody := .current .mA4 ⟨.int16, .integer 4000, 4000, 5000⟩

def menu20mACali : PageBody := .current .mA20 ⟨.int16, .integer 20000, 18000, 22000⟩

def menuRs485Baud : PageBody := .select fun global =>
  ⟨texts ["1200", "2400", "4800", "9600", "19200", "38400"], global.commBaud.toNat⟩

def menuRs485Check : PageBody := .select fun global =>
  ⟨texts ["无校验", "奇校验", "偶校验"], global.commParity.toNat⟩

def menuRs485Id : PageBody := .number fun global =>
  ⟨.int8, .integer global.commDeviceId.toNat, 1, 247⟩

def menuBacklightSetup : PageBody := .select fun global =>
  ⟨texts ["是", "否"], global.backlight.toNat⟩

def menuRelayTest : PageBody := .select fun global =>
  ⟨texts ["否", "是"], global.backlight.toNat⟩

def menuTempSelect : PageBody := .select fun global =>
  ⟨texts ["自动", "手动"], global.tempSelect.toNat⟩

def menuTempCompensate : PageBody := .number fun global =>
  ⟨.int16, .integer global.tempCompensate.toInt, -1000, 1000⟩

def menuSerialNoSetup : PageBody := .number fun global =>
  ⟨.int32, .integer global.serialNo.toNat, 0, 999999⟩

def menuPasswordSetup : PageBody := .number fun global =>
  ⟨.int32, .integer global.password.toNat, 0, 999999⟩

def pageBody : PageFunc → PageBody
  | .menuMainDisp => .root
  | .passProc => .password
  | .menuResetFactory => .resetFactory
  | .menuDisplayZhuoduXiguangdu => .display
  | .menuDisplayFormula => .display
  | .menuDisplayCh123 => .display
  | .menuRs485Databit => .display
  | .menuAfterServiceSetup => .display
  | .menuZeroCali => .boxes
  | .menuFullCali => .boxes
  | .menuCoeffABSetup => .boxes
  | .menuLinearCali => .boxes
  | .menuSignalSetup => .boxes
  | .menuCanbiZhuodu => .boxes
  | .menuUnit => menuUnit
  | .menuRangeSetup => menuRangeSetup
  | .menuZeroCompensate => menuZeroCompensate
  | .menuTempSelect => menuTempSelect
  | .menuTempCompensate => menuTempCompensate
  | .menuRelay1AlarmSel => menuRelay1AlarmSel
  | .menuRelay1AlarmValue => menuRelay1AlarmValue
  | .menuRelay1AlarmDelay => menuRelay1AlarmDelay
  | .menuRelay2AlarmSel => menuRelay2AlarmSel
  | .menuRelay2AlarmValue => menuRelay2AlarmValue
  | .menuRelay2AlarmDelay => menuRelay2AlarmDelay
  | .menuCleanInterval => menuCleanInterval
  | .menuCleanTime => menuCleanTime
  | .menu4mACali => menu4mACali
  | .menu20mACali => menu20mACali
  | .menuBacklightSetup => menuBacklightSetup
  | .menuPasswordSetup => menuPasswordSetup
  | .menuSerialNoSetup => menuSerialNoSetup
  | .menuRs485Id => menuRs485Id
  | .menuRs485Baud => menuRs485Baud
  | .menuRs485Check => menuRs485Check
  | .menuRelayTest => menuRelayTest
  | .menuRangeSelect => menuRangeSelect
  | .menuLinearCaliPoint => menuLinearCaliPoint

structure PageResult where
  statics : Statics
  calls : List (Call PageFunc)
  /-- `NVIC_SystemReset` -/
  reset : Bool

/-- The call of `leaf_exit`, if there is one. -/
def leave (exits : Bool) : List (Call PageFunc) := if exits then [.leafExit] else []

def menuMainDisp (pass : MenuPass) (statics : Statics) : PageResult :=
  match pass.key with
  | .downMenuAndOk => ⟨statics, [.jump2func (some .passProc)], false⟩
  | .downOk => ⟨statics, [.jump2menu none], false⟩
  | _ => ⟨statics, [], false⟩

/-- The index that `pass_proc` opens. -/
def serviceIndex : IndexText := ⟨['1'], by decide⟩

def passProc (pass : MenuPass) (statics : Statics) : PageResult :=
  match getPassword pass.key statics with
  | (edited, some passWord) =>
      if strncmpEqual 6 passWord (charBytes pass.global.passwordBuf) then
        ⟨edited, [.jump2menu (some serviceIndex)], false⟩
      else ⟨edited, [.jump2func none], false⟩
  | (edited, none) => ⟨edited, [], false⟩

def menuResetFactory (pass : MenuPass) (statics : Statics) : PageResult :=
  match pass.key with
  | .downUp => ⟨{ statics with flagReset := !statics.flagReset }, [], false⟩
  | .downDown => ⟨{ statics with flagReset := !statics.flagReset }, [], false⟩
  | .downMenu => ⟨{ statics with flagReset := false }, [.leafExit], false⟩
  | .downOk => ⟨statics, [], statics.flagReset⟩
  | _ => ⟨statics, [], false⟩

def selectPage (args : SelectArgs) (pass : MenuPass) (statics : Statics) : PageResult :=
  let (edited, setStat) := setSelect pass.key args pass.stray statics
  ⟨edited, leave setStat.leaves, false⟩

def numberPage (args : SetIntFloat) (pass : MenuPass) (statics : Statics) : PageResult :=
  let (edited, setStat) :=
    setIntFloatMinMax pass.key args pass.uninitReal { statics with setIntFloat := args }
  ⟨edited, leave setStat.leaves, false⟩

def Statics.flagCurrent (statics : Statics) : CurrentPage → Bool
  | .mA4 => statics.flag4mA
  | .mA20 => statics.flag20mA

def Statics.withFlagCurrent (statics : Statics) (value : Bool) : CurrentPage → Statics
  | .mA4 => { statics with flag4mA := value }
  | .mA20 => { statics with flag20mA := value }

/-- The first call of a current page fills `setIntFloat`. -/
def openCurrent (page : CurrentPage) (own : SetIntFloat) (statics : Statics) : Statics :=
  if statics.flagCurrent page then statics
  else { statics.withFlagCurrent true page with setIntFloat := own }

/-- An accepted current keeps the page open. -/
def currentPage (page : CurrentPage) (own : SetIntFloat) (pass : MenuPass) (statics : Statics) :
    PageResult :=
  let opened := openCurrent page own statics
  match setIntFloatMinMax pass.key opened.setIntFloat pass.uninitReal opened with
  | (edited, .exit) => ⟨edited.withFlagCurrent false page, [.leafExit], false⟩
  | (edited, _) => ⟨edited, [], false⟩

def runPage (pass : MenuPass) (statics : Statics) : PageBody → PageResult
  | .root => menuMainDisp pass statics
  | .password => passProc pass statics
  | .display => ⟨statics, leave (pass.key = .downMenu), false⟩
  | .boxes => ⟨statics, leave pass.exits, false⟩
  | .resetFactory => menuResetFactory pass statics
  | .select args => selectPage (args pass.global) pass statics
  | .number args => numberPage (args pass.global) pass statics
  | .current page own => currentPage page own pass statics

structure MenuState where
  frame : Frame PageFunc
  statics : Statics

/-- The state after `menu_init`. -/
def menuInit : MenuState := ⟨menuVarInit sMenu, .cleared⟩

/-- The function that `menu_main` calls; `none` while a list is shown. -/
def MenuState.active (state : MenuState) : Option PageFunc :=
  match state.frame.menuStatus with
  | .node => none
  | .leaf =>
      if state.frame.reload then state.frame.virtualFunc
      else funcOf sMenu state.frame.psMenuCurr

def frameStep (pass : MenuPass) (calls : List (Call PageFunc)) (statics : Statics)
    (frame : Frame PageFunc) : Option MenuState :=
  (menuMain sMenu frame ⟨pass.key, calls, pass.uninit⟩).map fun next => ⟨next, statics⟩

/-- `menu_main`; it fails where a function is called through `NULL`. -/
def menuStep (state : MenuState) (pass : MenuPass) : Option MenuState :=
  match state.frame.menuStatus with
  | .node => frameStep pass [] state.statics state.frame
  | .leaf =>
      match state.active with
      | none => none
      | some func =>
          let result := runPage pass state.statics (pageBody func)
          if result.reset then some menuInit
          else frameStep pass result.calls result.statics state.frame

end ZhuoduControl.Menu.Edit
