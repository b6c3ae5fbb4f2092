import ZhuoduControl.Data.Zhuodu

/-! The `global` record and the values `default_init` gives it. -/

set_option autoImplicit false

namespace ZhuoduControl.Data

open ZhuoduControl.Library

structure GlobalDef where
  isDispReverse : U8
  commFormat : U8
  commBaud : U8
  commParity : U8
  commDeviceId : U8
  password : U32
  passwordBuf : List Char
  serialNo : U32
  unit : U8
  tempSelect : U8
  temp : U16
  tempCompensate : U16
  isRelayTest : U8
  relay1AlarmType : U8
  relay1AlarmVal : U32
  relay1AlarmDelay : U32
  relay2AlarmType : U8
  relay2AlarmVal : U32
  relay2AlarmDelay : U32
  cleanInterval : U32
  cleanTime : U32
  backlight : U8
  zhuoduData : Zhuodu

def GlobalDef.cleared : GlobalDef where
  isDispReverse := 0
  commFormat := 0
  commBaud := 0
  commParity := 0
  commDeviceId := 0
  password := 0
  passwordBuf := []
  serialNo := 0
  unit := 0
  tempSelect := 0
  temp := 0
  tempCompensate := 0
  isRelayTest := 0
  relay1AlarmType := 0
  relay1AlarmVal := 0
  relay1AlarmDelay := 0
  relay2AlarmType := 0
  relay2AlarmVal := 0
  relay2AlarmDelay := 0
  cleanInterval := 0
  cleanTime := 0
  backlight := 0
  zhuoduData := fun _ => 0

def floatOne : U32 := 0x3F800000

def floatThousand : U32 := 0x447A0000

def defaultZhuodu : List Setting :=
  [⟨.a1, .float floatOne, rfl⟩, ⟨.a1k1, .float floatOne, rfl⟩, ⟨.a2, .float floatOne, rfl⟩,
    ⟨.a3, .float floatOne, rfl⟩, ⟨.a4, .float floatOne, rfl⟩,
    ⟨.b1, .float 0, rfl⟩, ⟨.b2, .float 0, rfl⟩, ⟨.b3, .float 0, rfl⟩, ⟨.b4, .float 0, rfl⟩,
    ⟨.a2Zero, .half 0, rfl⟩, ⟨.brightRange, .half 150, rfl⟩, ⟨.canbiSet, .half 5000, rfl⟩,
    ⟨.numCali, .half 2, rfl⟩, ⟨.rangeSel, .half 0, rfl⟩,
    ⟨.segRange1, .float floatThousand, rfl⟩, ⟨.segRange2, .float floatThousand, rfl⟩,
    ⟨.segRange3, .float floatThousand, rfl⟩, ⟨.segRange4, .float floatThousand, rfl⟩,
    ⟨.temp, .half 250, rfl⟩]

def defaultInit (global : GlobalDef) : GlobalDef :=
  { global with
    backlight := 1
    cleanInterval := 36000
    cleanTime := 1
    commBaud := 3
    commDeviceId := 1
    commFormat := 0
    commParity := 0
    tempCompensate := 0
    temp := 250
    isDispReverse := 0
    isRelayTest := 0
    unit := 0
    zhuoduData := defaultZhuodu.foldl Zhuodu.assign global.zhuoduData }

end ZhuoduControl.Data
