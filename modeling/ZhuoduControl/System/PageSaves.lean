import ZhuoduControl.Menu.Commit
import ZhuoduControl.Menu.Pages
import ZhuoduControl.Settings.SavedSettings
import ZhuoduControl.System.RelayTest

/-! What the pages with `set_select` and `set_int_float_min_max` do with the value that
comes with `SET_OK`. The pages that set the serial line up again do so after these
assignments, and the two that change a timer between them. -/

set_option autoImplicit false

namespace ZhuoduControl.System

open ZhuoduControl.Library
open ZhuoduControl.Data
open ZhuoduControl.Modbus
open ZhuoduControl.Settings (Device)
open ZhuoduControl.Menu (MenuOp)
open ZhuoduControl.Menu.Edit (SelectArgs SetIntFloat)
open ZhuoduControl.Menu.Frame (PageFunc)

/-- What the pages write: the settings, the message queue and the relay outputs. -/
structure PageWorld where
  device : Device
  queued : List ModbusMsg
  relays : List PinWrite

namespace PageWorld

def zhuodu (world : PageWorld) : Zhuodu := world.device.global.zhuoduData

def store (save : Device → Nat → Device) (retVal : Nat) (world : PageWorld) : PageWorld :=
  { world with device := save world.device retVal }

def assign (world : PageWorld) (setting : Setting) : PageWorld :=
  let global := { world.device.global with zhuoduData := world.zhuodu.assign setting }
  { world with device := { world.device with global := global } }

def perform (world : PageWorld) : MenuOp → PageWorld
  | .repair setting => world.assign setting
  | .assign setting => world.assign setting
  | .send msg => { world with queued := world.queued ++ [msg] }

def performAll (ops : List MenuOp) (world : PageWorld) : PageWorld := ops.foldl perform world

end PageWorld

section Conversions

/-- The part of a `double` before its point. -/
def truncated : DecimalText.Number → Int
  | .finite value => value.num.tdiv value.den
  | _ => 0

/-- The conversion to `float`. A decimal of one place is never so near the middle of two
of them that its rounding to `double` before could matter. -/
def toFloat : DecimalText.Number → U32
  | .finite value => Binary32.ofRat value
  | .infinite negative => Binary32.encode (.infinite negative)
  | .nan => Binary32.quietNan

/-- The conversion to an integer of `width` bits, for a value that fits. -/
def toBits (width : Nat) (retVal : DecimalText.Number) : Nat :=
  (BitVec.ofInt width (truncated retVal)).toNat

end Conversions

/-- `temp_select` is not kept in the FRAM. -/
def menuTempSelect (retVal : U8) (world : PageWorld) : PageWorld :=
  let global := world.device.global
  if retVal = global.tempSelect then world
  else
    let temp := if retVal = 1 then 250 else global.tempCompensate + world.zhuodu.readHalf .temp
    { world with
      device := { world.device with global := { global with tempSelect := retVal, temp := temp } } }

/-- The relay test page acts on `SET_EXIT` as well. -/
def menuRelayTestPage (setStat : Menu.Edit.SetStat U8) (world : PageWorld) : PageWorld :=
  let result := menuRelayTest setStat world.device.global
  { world with
    device := { world.device with global := result.1 }
    relays := world.relays ++ result.2 }

/-- The case `SET_OK` of the pages with `set_select`. -/
def saveSelected (func : PageFunc) (retVal : U8) (world : PageWorld) : PageWorld :=
  match func with
  | .menuUnit => world.store Settings.menuUnit retVal.toNat
  | .menuRelay1AlarmSel => world.store Settings.menuRelay1AlarmSel retVal.toNat
  | .menuRelay2AlarmSel => world.store Settings.menuRelay2AlarmSel retVal.toNat
  | .menuRs485Baud => world.store Settings.menuRs485Baud retVal.toNat
  | .menuRs485Check => world.store Settings.menuRs485Check retVal.toNat
  | .menuBacklightSetup => world.store Settings.menuBacklightSetup retVal.toNat
  | .menuRangeSelect => world.performAll (Menu.menuRangeSelect retVal)
  | .menuLinearCaliPoint => world.performAll (Menu.menuLinearCaliPoint world.zhuodu retVal)
  | .menuTempSelect => menuTempSelect retVal world
  | .menuRelayTest => menuRelayTestPage (.ok retVal) world
  | _ => world

/-- The case `SET_OK` of the pages with `set_int_float_min_max`; `stale` is what `mb_addr`
holds where no case assigns it. -/
def saveNumber (func : PageFunc) (stale : U16) (retVal : DecimalText.Number)
    (world : PageWorld) : PageWorld :=
  match func with
  | .menuRelay1AlarmValue => world.store Settings.menuRelay1AlarmValue (toFloat retVal).toNat
  | .menuRelay1AlarmDelay => world.store Settings.menuRelay1AlarmDelay (toFloat retVal).toNat
  | .menuRelay2AlarmValue => world.store Settings.menuRelay2AlarmValue (toFloat retVal).toNat
  | .menuRelay2AlarmDelay => world.store Settings.menuRelay2AlarmDelay (toFloat retVal).toNat
  | .menuCleanInterval => world.store Settings.menuCleanInterval (toBits 32 retVal)
  | .menuCleanTime => world.store Settings.menuCleanTime (toBits 32 retVal)
  | .menuRs485Id => world.store Settings.menuRs485Id (toBits 8 retVal)
  | .menuTempCompensate => world.store Settings.menuTempCompensate (toBits 16 retVal)
  | .menuSerialNoSetup => world.store Settings.menuSerialNoSetup (toBits 32 retVal)
  | .menuPasswordSetup => world.store Settings.menuPasswordSetup (toBits 32 retVal)
  | .menuRangeSetup => world.performAll (Menu.menuRangeSetup world.zhuodu stale (toFloat retVal))
  | .menuZeroCompensate => world.performAll (Menu.menuZeroCompensate world.zhuodu (toFloat retVal))
  | _ => world

/-- What a page does with the return of `set_select`. -/
def afterSelect (func : PageFunc) (setStat : Menu.Edit.SetStat Nat) (world : PageWorld) :
    PageWorld :=
  match setStat with
  | .ok retVal => saveSelected func (BitVec.ofNat 8 retVal) world
  | .exit => if func = .menuRelayTest then menuRelayTestPage .exit world else world
  | _ => world

/-- What a page does with the return of `set_int_float_min_max`. -/
def afterNumber (func : PageFunc) (stale : U16) (setStat : Menu.Edit.SetStat DecimalText.Number)
    (world : PageWorld) : PageWorld :=
  match setStat with
  | .ok retVal => saveNumber func stale retVal world
  | _ => world

end ZhuoduControl.System
