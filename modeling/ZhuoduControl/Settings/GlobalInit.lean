import ZhuoduControl.Data.Global
import ZhuoduControl.Settings.FactoryReset

/-! `global_init`: the marker switch, then one read of the FRAM for each setting that
is kept there, with the range repairs of the source. -/

set_option autoImplicit false

namespace ZhuoduControl.Settings

open ZhuoduControl.Library
open ZhuoduControl.Data

/-- The members of `global` that some page saves or `global_init` loads. -/
inductive Persisted
  | password
  | unit
  | commFormat
  | commBaud
  | commParity
  | commDeviceId
  | relay1AlarmType
  | relay1AlarmVal
  | relay1AlarmDelay
  | relay2AlarmType
  | relay2AlarmVal
  | relay2AlarmDelay
  | cleanInterval
  | cleanTime
  | backlight
  | tempCompensate
  | serialNo
deriving DecidableEq, Repr

/-- The text of `snprintf(…, "%06d", …)` for a number of at most six digits. -/
def sixDigits (value : Nat) : List Char :=
  [5, 4, 3, 2, 1, 0].map fun place => Char.ofNat (48 + value / 10 ^ place % 10)

namespace Persisted

def field : Persisted → E2PField
  | password => .password
  | unit => .unit
  | commFormat => .commFormat
  | commBaud => .commBaud
  | commParity => .commParity
  | commDeviceId => .commDeviceId
  | relay1AlarmType => .relay1AlarmType
  | relay1AlarmVal => .relay1AlarmVal
  | relay1AlarmDelay => .relay1AlarmDelay
  | relay2AlarmType => .relay2AlarmType
  | relay2AlarmVal => .relay2AlarmVal
  | relay2AlarmDelay => .relay2AlarmDelay
  | cleanInterval => .cleanInterval
  | cleanTime => .cleanTime
  | backlight => .backlight
  | tempCompensate => .tempCompensate
  | serialNo => .serialNo

/-- The bits of the member; a `float` and a signed member are their bit patterns. -/
def read : Persisted → GlobalDef → Nat
  | password, global => global.password.toNat
  | unit, global => global.unit.toNat
  | commFormat, global => global.commFormat.toNat
  | commBaud, global => global.commBaud.toNat
  | commParity, global => global.commParity.toNat
  | commDeviceId, global => global.commDeviceId.toNat
  | relay1AlarmType, global => global.relay1AlarmType.toNat
  | relay1AlarmVal, global => global.relay1AlarmVal.toNat
  | relay1AlarmDelay, global => global.relay1AlarmDelay.toNat
  | relay2AlarmType, global => global.relay2AlarmType.toNat
  | relay2AlarmVal, global => global.relay2AlarmVal.toNat
  | relay2AlarmDelay, global => global.relay2AlarmDelay.toNat
  | cleanInterval, global => global.cleanInterval.toNat
  | cleanTime, global => global.cleanTime.toNat
  | backlight, global => global.backlight.toNat
  | tempCompensate, global => global.tempCompensate.toNat
  | serialNo, global => global.serialNo.toNat

/-- Assign the member; the password is always printed into `password_buf` as well. -/
def assign : Persisted → Nat → GlobalDef → GlobalDef
  | password, value, global =>
      let word := BitVec.ofNat 32 value
      { global with password := word, passwordBuf := sixDigits word.toNat }
  | unit, value, global => { global with unit := BitVec.ofNat 8 value }
  | commFormat, value, global => { global with commFormat := BitVec.ofNat 8 value }
  | commBaud, value, global => { global with commBaud := BitVec.ofNat 8 value }
  | commParity, value, global => { global with commParity := BitVec.ofNat 8 value }
  | commDeviceId, value, global => { global with commDeviceId := BitVec.ofNat 8 value }
  | relay1AlarmType, value, global => { global with relay1AlarmType := BitVec.ofNat 8 value }
  | relay1AlarmVal, value, global => { global with relay1AlarmVal := BitVec.ofNat 32 value }
  | relay1AlarmDelay, value, global => { global with relay1AlarmDelay := BitVec.ofNat 32 value }
  | relay2AlarmType, value, global => { global with relay2AlarmType := BitVec.ofNat 8 value }
  | relay2AlarmVal, value, global => { global with relay2AlarmVal := BitVec.ofNat 32 value }
  | relay2AlarmDelay, value, global => { global with relay2AlarmDelay := BitVec.ofNat 32 value }
  | cleanInterval, value, global => { global with cleanInterval := BitVec.ofNat 32 value }
  | cleanTime, value, global => { global with cleanTime := BitVec.ofNat 32 value }
  | backlight, value, global => { global with backlight := BitVec.ofNat 8 value }
  | tempCompensate, value, global => { global with tempCompensate := BitVec.ofNat 16 value }
  | serialNo, value, global => { global with serialNo := BitVec.ofNat 32 value }

theorem field_injective {left right : Persisted} (same : left.field = right.field) :
    left = right := by
  cases left <;> cases right <;> first | rfl | cases same

theorem field_ne_eeprom (setting : Persisted) : setting.field ≠ .eeprom := by
  cases setting <;> decide

theorem read_assign_same (setting : Persisted) (value : Nat) (global : GlobalDef) :
    setting.read (setting.assign value global) = value % 256 ^ setting.field.size := by
  cases setting <;> rfl

theorem read_assign_other {setting other : Persisted} (different : other ≠ setting) (value : Nat)
    (global : GlobalDef) : other.read (setting.assign value global) = other.read global := by
  cases setting <;> cases other <;> first | rfl | exact absurd rfl different

end Persisted

structure Device where
  fram : Memory U8
  global : GlobalDef

/-- One read of `global_init`: the greatest value taken over as it is, and what is
written back and taken instead of a greater one. -/
structure Load where
  setting : Persisted
  repair : Option (Nat × Nat)
deriving DecidableEq

namespace Load

def run (device : Device) (load : Load) : Device :=
  let tmp := load.setting.field.stored device.fram
  match load.repair with
  | none => ⟨device.fram, load.setting.assign tmp device.global⟩
  | some (greatest, replacement) =>
      if greatest < tmp then
        ⟨load.setting.field.write replacement device.fram,
          load.setting.assign replacement device.global⟩
      else ⟨device.fram, load.setting.assign tmp device.global⟩

def repaired (load : Load) (value : Nat) : Nat :=
  match load.repair with
  | none => value
  | some (greatest, replacement) => if greatest < value then replacement else value

end Load

/-- The reads in order. Before them `lcd_contrast` and `is_disp_reverse` are read into
a variable that a later read overwrites. -/
def loads : List Load :=
  [⟨.password, some (999999, 10000)⟩,
    ⟨.unit, some (1, 0)⟩,
    ⟨.commFormat, some (1, 0)⟩,
    ⟨.commBaud, some (5, 3)⟩,
    ⟨.commParity, some (2, 0)⟩,
    ⟨.commDeviceId, some (247, 1)⟩,
    ⟨.relay1AlarmType, some (1, 1)⟩,
    ⟨.relay1AlarmVal, none⟩,
    ⟨.relay1AlarmDelay, none⟩,
    ⟨.relay2AlarmType, some (1, 1)⟩,
    ⟨.relay2AlarmVal, none⟩,
    ⟨.relay2AlarmDelay, none⟩,
    ⟨.cleanInterval, none⟩,
    ⟨.cleanTime, none⟩,
    ⟨.backlight, none⟩]

def globalInit (device : Device) : Device :=
  loads.foldl Load.run
    ⟨device.fram.setAll (globalInitSwitch device.fram), defaultInit device.global⟩

/-- A start of the program: the RAM is cleared first. -/
def powerOn (fram : Memory U8) : Device :=
  globalInit ⟨fram, GlobalDef.cleared⟩

namespace Load

/-- A replacement passes its own check and fits the member. -/
def Sound (load : Load) : Prop :=
  ∀ greatest replacement, load.repair = some (greatest, replacement) →
    replacement ≤ greatest ∧ greatest < 256 ^ load.setting.field.size

theorem run_read (device : Device) {load : Load} (sound : load.Sound) :
    load.setting.read (run device load).global =
      load.repaired (load.setting.field.stored device.fram) := by
  have bound := load.setting.field.stored_lt device.fram
  unfold run repaired
  cases repair : load.repair with
  | none => rw [Persisted.read_assign_same, Nat.mod_eq_of_lt bound]
  | some limits =>
      obtain ⟨greatest, replacement⟩ := limits
      obtain ⟨passes, fits⟩ := sound greatest replacement repair
      simp only
      split
      · rw [Persisted.read_assign_same, Nat.mod_eq_of_lt (Nat.lt_of_le_of_lt passes fits)]
      · rw [Persisted.read_assign_same, Nat.mod_eq_of_lt bound]

theorem run_read_other (device : Device) (load : Load) {other : Persisted}
    (different : other ≠ load.setting) :
    other.read (run device load).global = other.read device.global := by
  unfold run
  cases load.repair with
  | none => exact Persisted.read_assign_other different _ _
  | some limits =>
      simp only
      split
      · exact Persisted.read_assign_other different _ _
      · exact Persisted.read_assign_other different _ _

theorem run_bytes_other (device : Device) (load : Load) {other : E2PField}
    (different : other ≠ load.setting.field) :
    (run device load).fram.load other.offset other.size =
      device.fram.load other.offset other.size := by
  unfold run
  cases load.repair with
  | none => rfl
  | some limits =>
      simp only
      split
      · exact E2PField.load_write_other different _ _
      · rfl

theorem run_stored (device : Device) {load : Load} (sound : load.Sound) :
    load.setting.field.stored (run device load).fram =
      load.repaired (load.setting.field.stored device.fram) := by
  unfold run repaired
  cases repair : load.repair with
  | none => rfl
  | some limits =>
      obtain ⟨greatest, replacement⟩ := limits
      obtain ⟨passes, fits⟩ := sound greatest replacement repair
      simp only
      split
      · rw [E2PField.stored_write_same, Nat.mod_eq_of_lt (Nat.lt_of_le_of_lt passes fits)]
      · rfl

end Load

theorem finished_of_bytes {before after : Memory U8}
    (same : after.load E2PField.eeprom.offset E2PField.eeprom.size =
      before.load E2PField.eeprom.offset E2PField.eeprom.size)
    (finished : Finished before) : Finished after := by
  have place : E2PField.eeprom.offset = 0 :=
    show Layout.offsetOf e2pMembers .eeprom = 0 by decide +kernel
  rw [place] at same
  obtain ⟨low, rest⟩ := List.cons.inj same
  obtain ⟨high, _⟩ := List.cons.inj rest
  unfold Finished eeprom
  rw [low, high]
  exact finished

section Reads

variable {reads : List Load}

theorem foldl_read_other (device : Device) {setting : Persisted}
    (absent : setting ∉ reads.map Load.setting) :
    setting.read (reads.foldl Load.run device).global = setting.read device.global := by
  induction reads generalizing device with
  | nil => rfl
  | cons load rest ih =>
      have different : setting ≠ load.setting := List.ne_of_not_mem_cons absent
      have later : setting ∉ rest.map Load.setting := List.not_mem_of_not_mem_cons absent
      rw [List.foldl_cons, ih _ later, Load.run_read_other device load different]

theorem foldl_bytes_other (device : Device) {field : E2PField}
    (absent : ∀ load ∈ reads, field ≠ load.setting.field) :
    (reads.foldl Load.run device).fram.load field.offset field.size =
      device.fram.load field.offset field.size := by
  induction reads generalizing device with
  | nil => rfl
  | cons load rest ih =>
      have different := absent load (.head _)
      rw [List.foldl_cons, ih _ fun other member => absent other (.tail _ member),
        Load.run_bytes_other device load different]

theorem foldl_stored_other (device : Device) {setting : Persisted}
    (absent : setting ∉ reads.map Load.setting) :
    setting.field.stored (reads.foldl Load.run device).fram =
      setting.field.stored device.fram := by
  have bytes := @foldl_bytes_other reads device setting.field ?_
  · rw [E2PField.stored, bytes, E2PField.stored]
  · intro load member same
    exact absent (List.mem_map.mpr ⟨load, member, (Persisted.field_injective same).symm⟩)

theorem foldl_read (distinct : (reads.map Load.setting).Nodup)
    (sound : ∀ load ∈ reads, load.Sound) (device : Device) {load : Load} (member : load ∈ reads) :
    let value := load.repaired (load.setting.field.stored device.fram)
    load.setting.read (reads.foldl Load.run device).global = value ∧
      load.setting.field.stored (reads.foldl Load.run device).fram = value := by
  induction reads generalizing device with
  | nil => cases member
  | cons head rest ih =>
      obtain ⟨fresh, later⟩ := List.nodup_cons.mp distinct
      rcases List.mem_cons.mp member with rfl | inRest
      · simp only [List.foldl_cons]
        rw [foldl_read_other _ fresh, foldl_stored_other _ fresh]
        exact ⟨Load.run_read device (sound load (.head _)),
          Load.run_stored device (sound load (.head _))⟩
      · have different : load.setting ≠ head.setting := by
          intro same
          exact fresh (same ▸ List.mem_map.mpr ⟨load, inRest, rfl⟩)
        have unread : load.setting.field.stored (Load.run device head).fram =
            load.setting.field.stored device.fram := by
          have bytes := Load.run_bytes_other device head
            (fun same => different (Persisted.field_injective same))
          rw [E2PField.stored, bytes, E2PField.stored]
        have rest := ih later (fun other inside => sound other (.tail _ inside))
          (Load.run device head) inRest
        rw [unread] at rest
        exact rest

end Reads

theorem loads_distinct : (loads.map Load.setting).Nodup := by decide

theorem loads_sound : ∀ load ∈ loads, load.Sound := by
  intro load member greatest replacement repair
  simp only [loads, List.mem_cons, List.not_mem_nil, or_false] at member
  rcases member with rfl | rfl | rfl | rfl | rfl | rfl | rfl | rfl | rfl | rfl | rfl | rfl | rfl |
    rfl | rfl <;> simp at repair <;> obtain ⟨rfl, rfl⟩ := repair <;> decide

theorem powerOn_eq {fram : Memory U8} (finished : Finished fram) :
    powerOn fram = loads.foldl Load.run ⟨fram, defaultInit GlobalDef.cleared⟩ := by
  rw [powerOn, globalInit, switch_finished finished, Memory.setAll_nil]

theorem powerOn_loaded {fram : Memory U8} (finished : Finished fram) {load : Load}
    (member : load ∈ loads) :
    let value := load.repaired (load.setting.field.stored fram)
    load.setting.read (powerOn fram).global = value ∧
      load.setting.field.stored (powerOn fram).fram = value := by
  rw [powerOn_eq finished]
  exact foldl_read loads_distinct loads_sound _ member

theorem powerOn_unloaded {fram : Memory U8} (finished : Finished fram) {setting : Persisted}
    (absent : setting ∉ loads.map Load.setting) :
    setting.read (powerOn fram).global = setting.read (defaultInit GlobalDef.cleared) ∧
      setting.field.stored (powerOn fram).fram = setting.field.stored fram := by
  rw [powerOn_eq finished]
  exact ⟨foldl_read_other _ absent, foldl_stored_other _ absent⟩

theorem powerOn_finished {fram : Memory U8} (finished : Finished fram) :
    Finished (powerOn fram).fram := by
  refine finished_of_bytes ?_ finished
  rw [powerOn_eq finished]
  exact foldl_bytes_other _ fun load _ => load.setting.field_ne_eeprom.symm

end ZhuoduControl.Settings
