import Mathlib.Data.List.Basic
import ZhuoduControl.Kernel.Tick
import ZhuoduControl.Modbus.SlaveStack
import ZhuoduControl.Settings.GlobalInit

/-! What `global_init` leaves for its consumers: the slave thread, the cleaning timers
and the pages that index a table with a setting. -/

set_option autoImplicit false

namespace ZhuoduControl.Settings

open ZhuoduControl.Library
open ZhuoduControl.Data
open ZhuoduControl.Modbus
open ZhuoduControl.Kernel

/-- The texts a page selects from where it has only two. -/
def tableSize : Nat := 2

structure BootUsable (device : Device) : Prop where
  baudAssigned : (assignedBaud (globalInit device).global.commBaud).isSome
  slaveInitialised : ∀ stale stack,
    (initSlave true stale (globalInit device).global stack).1 = .enoerr
  unitIndexed : (globalInit device).global.unit.toNat < tableSize
  relay1TypeIndexed : (globalInit device).global.relay1AlarmType.toNat < tableSize
  relay2TypeIndexed : (globalInit device).global.relay2AlarmType.toNat < tableSize
  backlightIndexed : (globalInit device).global.backlight.toNat < tableSize
  cleanIntervalStartable : Startable (globalInit device).global.cleanInterval
  cleanTimeStartable : Startable (globalInit device).global.cleanTime
  passwordSixDigits : (globalInit device).global.password.toNat ≤ 999999
  settled : globalInit (globalInit device) = globalInit device

/-- What the image must hold in the fields `global_init` does not repair, or repairs to
less than a consumer needs. -/
structure UsableImage (fram : Memory U8) : Prop where
  format : E2PField.commFormat.stored fram ≠ 1
  deviceId : E2PField.commDeviceId.stored fram ≠ 0
  backlight : E2PField.backlight.stored fram < tableSize
  cleanInterval : Startable (BitVec.ofNat 32 (E2PField.cleanInterval.stored fram))
  cleanTime : Startable (BitVec.ofNat 32 (E2PField.cleanTime.stored fram))

namespace Load

/-- The check of the read lets the value through. -/
def Passes (load : Load) (value : Nat) : Prop :=
  ∀ greatest replacement, load.repair = some (greatest, replacement) → value ≤ greatest

theorem repaired_passes {load : Load} (sound : load.Sound) (value : Nat) :
    load.Passes (load.repaired value) := by
  intro greatest replacement repair
  unfold repaired
  rw [repair]
  simp only
  split
  · exact (sound greatest replacement repair).1
  · next within => exact Nat.le_of_not_lt within

theorem repaired_of_passes {load : Load} {value : Nat} (passes : load.Passes value) :
    load.repaired value = value := by
  unfold repaired
  cases repair : load.repair with
  | none => rfl
  | some limits =>
      obtain ⟨greatest, replacement⟩ := limits
      exact if_neg (Nat.not_lt_of_le (passes greatest replacement repair))

theorem run_fram_settled {device : Device} {load : Load}
    (passes : load.Passes (load.setting.field.stored device.fram)) :
    (run device load).fram = device.fram := by
  unfold run
  cases repair : load.repair with
  | none => rfl
  | some limits =>
      obtain ⟨greatest, replacement⟩ := limits
      simp only
      rw [if_neg (Nat.not_lt_of_le (passes greatest replacement repair))]

end Load

section Reads

variable {reads : List Load}

theorem foldl_fram_settled {device : Device}
    (passes : ∀ load ∈ reads, load.Passes (load.setting.field.stored device.fram)) :
    (reads.foldl Load.run device).fram = device.fram := by
  induction reads generalizing device with
  | nil => rfl
  | cons head rest ih =>
      have same := Load.run_fram_settled (passes head (.head _))
      rw [List.foldl_cons, ih, same]
      intro load member
      rw [same]
      exact passes load (.tail _ member)

end Reads

section Switch

variable (fram : Memory U8)

/-- The image after the marker switch. -/
def switched : Memory U8 := fram.setAll (globalInitSwitch fram)

theorem switched_of_finished {fram : Memory U8} (finished : Finished fram) :
    switched fram = fram := by
  rw [switched, switch_finished finished, Memory.setAll_nil]

/-- Without one of the two final markers the switch ends one of the resets, which both
write the bytes behind `unprotected`. -/
theorem switched_of_unfinished {fram : Memory U8} (unfinished : ¬ Finished fram) :
    Finished (switched fram) ∧ ∀ address, eeUnprotected ≤ address → address < e2pSize →
      switched fram address = cFactorySetting address := by
  have behind : 2 ≤ eeUnprotected := by
    rw [eeUnprotected_eq]
    exact Nat.le_of_ble_eq_true rfl
  obtain ⟨recovered, recoveredBytes⟩ := @markedReset_completes eeFullRecoveryIng
    eeFullRecoveryOver 2 (Nat.le_refl 2) fram
  have recovery : Finished (fram.setAll fullResetEeprom) ∧
      ∀ address, eeUnprotected ≤ address → address < e2pSize →
        fram.setAll fullResetEeprom address = cFactorySetting address :=
    ⟨.inl recovered, fun address lower => recoveredBytes address (Nat.le_trans behind lower)⟩
  obtain ⟨restored, restoredBytes⟩ := @markedReset_completes eeResetFactoryIng
    eeResetFactoryOver eeUnprotected behind fram
  unfold switched globalInitSwitch
  split
  · exact recovery
  split
  · next marked => exact absurd (.inl marked) unfinished
  split
  · exact ⟨.inr restored, restoredBytes⟩
  split
  · next marked => exact absurd (.inr marked) unfinished
  · exact recovery

theorem switched_finished : Finished (switched fram) := by
  by_cases finished : Finished fram
  · rw [switched_of_finished finished]
    exact finished
  · exact (switched_of_unfinished finished).1

theorem stored_switched_of_unfinished {fram : Memory U8} (unfinished : ¬ Finished fram)
    {field : E2PField} (lower : eeUnprotected ≤ field.offset)
    (upper : field.offset + field.size ≤ e2pSize) :
    field.stored (switched fram) = field.stored cFactorySetting := by
  obtain ⟨_, factory⟩ := switched_of_unfinished unfinished
  unfold E2PField.stored
  congr 1
  refine Memory.load_congr ?_
  intro address above below
  exact factory address (Nat.le_trans lower above) (Nat.lt_of_lt_of_le below upper)

end Switch

theorem globalInit_eq (device : Device) :
    globalInit device =
      loads.foldl Load.run ⟨switched device.fram, defaultInit device.global⟩ := rfl

theorem globalInit_loaded (device : Device) {load : Load} (member : load ∈ loads) :
    let value := load.repaired (load.setting.field.stored (switched device.fram))
    load.setting.read (globalInit device).global = value ∧
      load.setting.field.stored (globalInit device).fram = value :=
  foldl_read loads_distinct loads_sound _ member

/-- Every setting the start loads passes the check of its read, in RAM and in FRAM. -/
theorem globalInit_passes (device : Device) {load : Load} (member : load ∈ loads) :
    load.Passes (load.setting.read (globalInit device).global) ∧
      load.Passes (load.setting.field.stored (globalInit device).fram) := by
  obtain ⟨read, stored⟩ := globalInit_loaded device member
  rw [read, stored]
  have passes := Load.repaired_passes (loads_sound load member)
    (load.setting.field.stored (switched device.fram))
  exact ⟨passes, passes⟩

theorem globalInit_finished (device : Device) : Finished (globalInit device).fram := by
  refine finished_of_bytes ?_ (switched_finished device.fram)
  exact foldl_bytes_other _ fun load _ => load.setting.field_ne_eeprom.symm

theorem foldl_assign_again (settings : List Setting) (zhuodu : Zhuodu) :
    settings.foldl Zhuodu.assign (settings.foldl Zhuodu.assign zhuodu) =
      settings.foldl Zhuodu.assign zhuodu := by
  have writes : ∀ start : Zhuodu, settings.foldl Zhuodu.assign start =
      start.setAll (settings.flatMap fun setting =>
        Memory.block setting.field.offset setting.value.halfWords) := by
    intro start
    induction settings generalizing start with
    | nil => rfl
    | cons setting rest ih =>
        rw [List.foldl_cons, ih, List.flatMap_cons, Memory.setAll_append]
        rfl
  rw [writes, writes]
  exact Memory.setAll_again zhuodu _

theorem foldl_preserves (invariant : GlobalDef → Prop)
    (kept : ∀ setting value global, invariant global →
      invariant (Persisted.assign setting value global))
    (reads : List Load) {device : Device} (initial : invariant device.global) :
    invariant (reads.foldl Load.run device).global := by
  induction reads generalizing device with
  | nil => exact initial
  | cons load rest ih =>
      refine ih ?_
      unfold Load.run
      cases load.repair with
      | none => exact kept _ _ _ initial
      | some limits =>
          simp only
          split
          · exact kept _ _ _ initial
          · exact kept _ _ _ initial

/-- What no read of the start assigns. -/
structure SameUnread (left right : GlobalDef) : Prop where
  isDispReverse : left.isDispReverse = right.isDispReverse
  tempSelect : left.tempSelect = right.tempSelect
  temp : left.temp = right.temp
  isRelayTest : left.isRelayTest = right.isRelayTest
  zhuoduData : left.zhuoduData = right.zhuoduData

theorem SameUnread.assign {left right : GlobalDef} (setting : Persisted) (value : Nat)
    (same : SameUnread left right) : SameUnread (setting.assign value left) right := by
  obtain ⟨isDispReverse, tempSelect, temp, isRelayTest, zhuoduData⟩ := same
  cases setting <;> exact ⟨isDispReverse, tempSelect, temp, isRelayTest, zhuoduData⟩

theorem globalInit_unread (device : Device) :
    SameUnread (globalInit device).global (defaultInit device.global) :=
  foldl_preserves (fun global => SameUnread global (defaultInit device.global))
    (fun setting value _ same => SameUnread.assign setting value same) loads
    ⟨rfl, rfl, rfl, rfl, rfl⟩

def PasswordPrinted (global : GlobalDef) : Prop :=
  global.passwordBuf = sixDigits global.password.toNat

theorem PasswordPrinted.assign {global : GlobalDef} (setting : Persisted) (value : Nat)
    (printed : PasswordPrinted global) : PasswordPrinted (setting.assign value global) := by
  cases setting with
  | password => exact rfl
  | _ => exact printed

theorem globalInit_passwordPrinted (device : Device) :
    PasswordPrinted (globalInit device).global := by
  rw [globalInit_eq, loads, List.foldl_cons]
  refine foldl_preserves PasswordPrinted
    (fun setting value _ printed => PasswordPrinted.assign setting value printed) _ ?_
  unfold Load.run
  simp only
  split
  · exact rfl
  · exact rfl

theorem global_eq {left right : GlobalDef} (reads : ∀ setting : Persisted,
    setting.read left = setting.read right) (unread : SameUnread left right)
    (leftPrinted : PasswordPrinted left) (rightPrinted : PasswordPrinted right) :
    left = right := by
  obtain ⟨isDispReverse, tempSelect, temp, isRelayTest, zhuoduData⟩ := unread
  have same : ∀ {width : Nat} {first second : BitVec width}, first.toNat = second.toNat →
      first = second := BitVec.eq_of_toNat_eq
  have passwords := same (reads .password)
  have buffers : left.passwordBuf = right.passwordBuf := by
    rw [leftPrinted, rightPrinted, passwords]
  cases left
  cases right
  simp only [GlobalDef.mk.injEq]
  exact ⟨isDispReverse, same (reads .commFormat), same (reads .commBaud), same (reads .commParity),
    same (reads .commDeviceId), passwords, buffers, same (reads .serialNo), same (reads .unit),
    tempSelect, temp, same (reads .tempCompensate), isRelayTest, same (reads .relay1AlarmType),
    same (reads .relay1AlarmVal), same (reads .relay1AlarmDelay), same (reads .relay2AlarmType),
    same (reads .relay2AlarmVal), same (reads .relay2AlarmDelay), same (reads .cleanInterval),
    same (reads .cleanTime), same (reads .backlight), zhuoduData⟩

theorem globalInit_unloaded (device : Device) {setting : Persisted}
    (absent : setting ∉ loads.map Load.setting) :
    setting.read (globalInit device).global = setting.read (defaultInit device.global) :=
  foldl_read_other _ absent

theorem defaultInit_unloaded {setting : Persisted} {before : GlobalDef} (after : GlobalDef)
    (absent : setting ∉ loads.map Load.setting)
    (unloaded : setting.read after = setting.read (defaultInit before)) :
    setting.read (defaultInit after) = setting.read after := by
  cases setting with
  | tempCompensate => exact unloaded.symm
  | serialNo => exact rfl
  | _ => exact absurd (by decide) absent

theorem defaultInit_unread_again {before after : GlobalDef}
    (same : SameUnread after (defaultInit before)) : SameUnread (defaultInit after) after := by
  obtain ⟨isDispReverse, _, temp, isRelayTest, zhuoduData⟩ := same
  refine ⟨isDispReverse.symm, rfl, temp.symm, isRelayTest.symm, ?_⟩
  calc (defaultInit after).zhuoduData
      = defaultZhuodu.foldl Zhuodu.assign (defaultInit before).zhuoduData :=
        congrArg (defaultZhuodu.foldl Zhuodu.assign) zhuoduData
    _ = (defaultInit before).zhuoduData := foldl_assign_again defaultZhuodu before.zhuoduData
    _ = after.zhuoduData := zhuoduData.symm

/-- RAM and FRAM agree on every setting the start loads, and the start would take it. -/
structure Backed (device : Device) : Prop where
  finished : Finished device.fram
  passes : ∀ load ∈ loads, load.Passes (load.setting.field.stored device.fram)
  loaded : ∀ load ∈ loads,
    load.setting.read device.global = load.setting.field.stored device.fram

/-- What a start leaves, and what the next one finds nothing to change in. -/
structure Settled (device : Device) : Prop extends Backed device where
  unloaded : ∀ setting ∉ loads.map Load.setting,
    setting.read (defaultInit device.global) = setting.read device.global
  unread : SameUnread (defaultInit device.global) device.global
  printed : PasswordPrinted device.global

theorem device_eq {left right : Device} (fram : left.fram = right.fram)
    (global : left.global = right.global) : left = right := by
  cases left
  cases right
  cases fram
  cases global
  rfl

theorem globalInit_of_settled {device : Device} (settled : Settled device) :
    globalInit device = device := by
  have image := switched_of_finished settled.finished
  have reads : ∀ setting : Persisted,
      setting.read (globalInit device).global = setting.read device.global := by
    intro setting
    by_cases loaded : setting ∈ loads.map Load.setting
    · obtain ⟨load, member, rfl⟩ := List.mem_map.mp loaded
      have read := (globalInit_loaded device member).1
      rw [image, Load.repaired_of_passes (settled.passes load member)] at read
      exact read.trans (settled.loaded load member).symm
    · exact (globalInit_unloaded device loaded).trans (settled.unloaded setting loaded)
  have unread : SameUnread (globalInit device).global device.global :=
    foldl_preserves (fun global => SameUnread global device.global)
      (fun setting value _ same => SameUnread.assign setting value same) loads settled.unread
  have global := global_eq reads unread (globalInit_passwordPrinted device) settled.printed
  have fram : (globalInit device).fram = device.fram := by
    rw [globalInit_eq, image]
    exact foldl_fram_settled settled.passes
  exact device_eq fram global

theorem globalInit_backed (device : Device) : Backed (globalInit device) := by
  refine ⟨globalInit_finished device, fun load member => (globalInit_passes device member).2, ?_⟩
  intro load member
  obtain ⟨read, stored⟩ := globalInit_loaded device member
  exact read.trans stored.symm

/-- A restart loads every setting as it is. -/
theorem Backed.powerOn_read {device : Device} (backed : Backed device) {setting : Persisted}
    (loaded : setting ∈ loads.map Load.setting) :
    setting.read (powerOn device.fram).global = setting.read device.global := by
  obtain ⟨load, member, rfl⟩ := List.mem_map.mp loaded
  rw [(powerOn_loaded backed.finished member).1,
    Load.repaired_of_passes (backed.passes load member), backed.loaded load member]

theorem globalInit_settled (device : Device) : Settled (globalInit device) := by
  refine ⟨globalInit_backed device, ?_, ?_, globalInit_passwordPrinted device⟩
  · exact fun setting absent => defaultInit_unloaded _ absent (globalInit_unloaded device absent)
  · exact defaultInit_unread_again (globalInit_unread device)

theorem startable_ofNat_toNat (value : U32) :
    Startable (BitVec.ofNat 32 value.toNat) ↔ Startable value := by
  rw [BitVec.ofNat_toNat, BitVec.setWidth_eq]

theorem assignedBaud_isSome {commBaud : U8} (known : commBaud.toNat ≤ 5) :
    (assignedBaud commBaud).isSome := by
  unfold assignedBaud
  match index : commBaud.toNat, known with
  | 0, _ | 1, _ | 2, _ | 3, _ | 4, _ | 5, _ => rfl

section Consumers

variable (device : Device)

theorem initSlave_enoerr_iff {stale : U32} {global : GlobalDef} {stack : SlaveStack}
    (known : global.commDeviceId.toNat ≤ mbAddressMax) :
    (initSlave true stale global stack).1 = .enoerr ↔
      global.commFormat.toNat = 0 ∧ global.commDeviceId.toNat ≠ 0 := by
  unfold initSlave
  rw [eMBInit_enoerr_iff]
  have rtu : global.commFormat = mbRtu ↔ global.commFormat.toNat = 0 := BitVec.toNat_inj.symm
  rw [rtu]
  constructor
  · rintro ⟨_, format, lower, _⟩
    exact ⟨format, Nat.ne_of_gt lower⟩
  · rintro ⟨format, set⟩
    exact ⟨rfl, format, Nat.pos_of_ne_zero set, known⟩

/-- Whatever the image, the checks of the start are enough for these consumers. -/
structure AlwaysUsable (global : GlobalDef) : Prop where
  baud : global.commBaud.toNat ≤ 5
  deviceId : global.commDeviceId.toNat ≤ mbAddressMax
  unit : global.unit.toNat < tableSize
  relay1Type : global.relay1AlarmType.toNat < tableSize
  relay2Type : global.relay2AlarmType.toNat < tableSize
  password : global.password.toNat ≤ 999999

theorem globalInit_alwaysUsable : AlwaysUsable (globalInit device).global := by
  have checked : ∀ setting greatest replacement, ⟨setting, some (greatest, replacement)⟩ ∈ loads →
      setting.read (globalInit device).global ≤ greatest := by
    intro setting greatest replacement member
    exact (globalInit_passes device member).1 greatest replacement rfl
  have belowTwo : ∀ setting replacement, ⟨setting, some (1, replacement)⟩ ∈ loads →
      setting.read (globalInit device).global < tableSize := by
    intro setting replacement member
    exact Nat.lt_succ_of_le (checked setting 1 replacement member)
  exact ⟨checked .commBaud 5 3 (by decide), checked .commDeviceId 247 1 (by decide),
    belowTwo .unit 0 (by decide), belowTwo .relay1AlarmType 1 (by decide),
    belowTwo .relay2AlarmType 1 (by decide), checked .password 999999 10000 (by decide)⟩

/-- What of the configuration the start does not secure. -/
structure Demands (global : GlobalDef) : Prop where
  format : global.commFormat.toNat = 0
  deviceId : global.commDeviceId.toNat ≠ 0
  backlight : global.backlight.toNat < tableSize
  cleanInterval : Startable global.cleanInterval
  cleanTime : Startable global.cleanTime

theorem bootUsable_iff_demands : BootUsable device ↔ Demands (globalInit device).global := by
  have always := globalInit_alwaysUsable device
  have slave := fun stale stack =>
    @initSlave_enoerr_iff stale (globalInit device).global stack always.deviceId
  constructor
  · intro usable
    obtain ⟨format, deviceId⟩ := (slave 0 ⟨0, 0, .notInitialized, ⟨0, 8, .none⟩, 0⟩).mp
      (usable.slaveInitialised _ _)
    exact ⟨format, deviceId, usable.backlightIndexed, usable.cleanIntervalStartable,
      usable.cleanTimeStartable⟩
  · intro demands
    exact ⟨assignedBaud_isSome always.baud,
      fun stale stack => (slave stale stack).mpr ⟨demands.format, demands.deviceId⟩,
      always.unit, always.relay1Type, always.relay2Type, demands.backlight,
      demands.cleanInterval, demands.cleanTime, always.password,
      globalInit_of_settled (globalInit_settled device)⟩

theorem demands_iff_usableImage :
    Demands (globalInit device).global ↔ UsableImage (switched device.fram) := by
  let fram := switched device.fram
  let global := (globalInit device).global
  have format : global.commFormat.toNat =
      if 1 < E2PField.commFormat.stored fram then 0 else E2PField.commFormat.stored fram :=
    (globalInit_loaded device (show ⟨.commFormat, some (1, 0)⟩ ∈ loads by decide)).1
  have deviceId : global.commDeviceId.toNat =
      if 247 < E2PField.commDeviceId.stored fram then 1 else E2PField.commDeviceId.stored fram :=
    (globalInit_loaded device (show ⟨.commDeviceId, some (247, 1)⟩ ∈ loads by decide)).1
  have backlight : global.backlight.toNat = E2PField.backlight.stored fram :=
    (globalInit_loaded device (show ⟨.backlight, none⟩ ∈ loads by decide)).1
  have interval : global.cleanInterval.toNat = E2PField.cleanInterval.stored fram :=
    (globalInit_loaded device (show ⟨.cleanInterval, none⟩ ∈ loads by decide)).1
  have time : global.cleanTime.toNat = E2PField.cleanTime.stored fram :=
    (globalInit_loaded device (show ⟨.cleanTime, none⟩ ∈ loads by decide)).1
  change Demands global ↔ UsableImage fram
  constructor
  · intro demands
    obtain ⟨formatZero, idSet, backlightIndexed, intervalFits, timeFits⟩ := demands
    rw [← startable_ofNat_toNat, interval] at intervalFits
    rw [← startable_ofNat_toNat, time] at timeFits
    rw [backlight] at backlightIndexed
    refine ⟨?_, ?_, backlightIndexed, intervalFits, timeFits⟩
    · intro one
      rw [one] at format
      rw [format] at formatZero
      cases formatZero
    · intro zero
      rw [zero] at deviceId
      exact idSet deviceId
  · intro image
    obtain ⟨formatOther, idSet, backlightIndexed, intervalFits, timeFits⟩ := image
    rw [← interval, startable_ofNat_toNat] at intervalFits
    rw [← time, startable_ofNat_toNat] at timeFits
    rw [← backlight] at backlightIndexed
    refine ⟨?_, ?_, backlightIndexed, intervalFits, timeFits⟩
    · rw [format]
      split <;> omega
    · rw [deviceId]
      split <;> omega

end Consumers

theorem factory_usableImage {fram : Memory U8} (unfinished : ¬ Finished fram) :
    UsableImage (switched fram) := by
  have place : ∀ field : E2PField,
      field ∈ [E2PField.commFormat, .commDeviceId, .backlight, .cleanInterval, .cleanTime] →
        field.stored (switched fram) = field.stored cFactorySetting := by
    intro field member
    have inside : ∀ other ∈ [E2PField.commFormat, .commDeviceId, .backlight, .cleanInterval,
        .cleanTime], eeUnprotected ≤ other.offset ∧ other.offset + other.size ≤ e2pSize := by
      decide +kernel
    obtain ⟨lower, upper⟩ := inside field member
    exact stored_switched_of_unfinished unfinished lower upper
  have factory : UsableImage cFactorySetting :=
    ⟨by decide +kernel, by decide +kernel, by decide +kernel, by decide +kernel, by decide +kernel⟩
  obtain ⟨format, deviceId, backlight, interval, time⟩ := factory
  refine ⟨?_, ?_, ?_, ?_, ?_⟩
  · rw [place .commFormat (by decide)]
    exact format
  · rw [place .commDeviceId (by decide)]
    exact deviceId
  · rw [place .backlight (by decide)]
    exact backlight
  · rw [place .cleanInterval (by decide)]
    exact interval
  · rw [place .cleanTime (by decide)]
    exact time

theorem bootUsable_iff (device : Device) :
    BootUsable device ↔ (Finished device.fram → UsableImage device.fram) := by
  rw [bootUsable_iff_demands, demands_iff_usableImage]
  by_cases finished : Finished device.fram
  · rw [switched_of_finished finished]
    exact ⟨fun usable _ => usable, fun usable => usable finished⟩
  · exact iff_of_true (factory_usableImage finished) fun marked => absurd marked finished

/-- The address 0 passes the check of the start, and the slave stack refuses it. -/
theorem deviceId_zero_unusable : ¬ ∀ device, BootUsable device := by
  intro always
  let image := E2PField.commDeviceId.write 0 cFactorySetting
  have finished : Finished image := by decide +kernel
  have stored : E2PField.commDeviceId.stored image = 0 := by decide +kernel
  have demands := (bootUsable_iff_demands ⟨image, GlobalDef.cleared⟩).mp (always _)
  have usable := (demands_iff_usableImage ⟨image, GlobalDef.cleared⟩).mp demands
  rw [switched_of_finished finished] at usable
  exact usable.deviceId stored

end ZhuoduControl.Settings
