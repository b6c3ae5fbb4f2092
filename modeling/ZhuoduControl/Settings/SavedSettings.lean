import Mathlib.Data.List.Induction
import ZhuoduControl.Settings.GlobalInit

/-! The pages that save a setting in the FRAM, and what a restart makes of their saves. -/

set_option autoImplicit false

namespace ZhuoduControl.Settings

open ZhuoduControl.Library
open ZhuoduControl.Data

/-- The case `SET_OK` of a page: assign the member, then write its bytes. -/
def savePage (setting : Persisted) (device : Device) (retVal : Nat) : Device :=
  let global := setting.assign retVal device.global
  ⟨setting.field.write (setting.read global) device.fram, global⟩

def menuUnit := savePage .unit
def menuRelay1AlarmSel := savePage .relay1AlarmType
def menuRelay1AlarmValue := savePage .relay1AlarmVal
def menuRelay1AlarmDelay := savePage .relay1AlarmDelay
def menuRelay2AlarmSel := savePage .relay2AlarmType
def menuRelay2AlarmValue := savePage .relay2AlarmVal
def menuRelay2AlarmDelay := savePage .relay2AlarmDelay
def menuCleanInterval := savePage .cleanInterval
def menuCleanTime := savePage .cleanTime
def menuRs485Baud := savePage .commBaud
def menuRs485Check := savePage .commParity
def menuRs485Id := savePage .commDeviceId
def menuTempCompensate := savePage .tempCompensate
def menuSerialNoSetup := savePage .serialNo
def menuPasswordSetup := savePage .password

/-- The only page that looks whether the value has changed. -/
def menuBacklightSetup (device : Device) (retVal : Nat) : Device :=
  if retVal = Persisted.backlight.read device.global then device
  else savePage .backlight device retVal

inductive Page
  | unit
  | relay1AlarmSel
  | relay1AlarmValue
  | relay1AlarmDelay
  | relay2AlarmSel
  | relay2AlarmValue
  | relay2AlarmDelay
  | cleanInterval
  | cleanTime
  | rs485Baud
  | rs485Check
  | rs485Id
  | backlightSetup
  | tempCompensate
  | serialNoSetup
  | passwordSetup
deriving DecidableEq, Repr

namespace Page

def run : Page → Device → Nat → Device
  | unit => menuUnit
  | relay1AlarmSel => menuRelay1AlarmSel
  | relay1AlarmValue => menuRelay1AlarmValue
  | relay1AlarmDelay => menuRelay1AlarmDelay
  | relay2AlarmSel => menuRelay2AlarmSel
  | relay2AlarmValue => menuRelay2AlarmValue
  | relay2AlarmDelay => menuRelay2AlarmDelay
  | cleanInterval => menuCleanInterval
  | cleanTime => menuCleanTime
  | rs485Baud => menuRs485Baud
  | rs485Check => menuRs485Check
  | rs485Id => menuRs485Id
  | backlightSetup => menuBacklightSetup
  | tempCompensate => menuTempCompensate
  | serialNoSetup => menuSerialNoSetup
  | passwordSetup => menuPasswordSetup

def setting : Page → Persisted
  | unit => .unit
  | relay1AlarmSel => .relay1AlarmType
  | relay1AlarmValue => .relay1AlarmVal
  | relay1AlarmDelay => .relay1AlarmDelay
  | relay2AlarmSel => .relay2AlarmType
  | relay2AlarmValue => .relay2AlarmVal
  | relay2AlarmDelay => .relay2AlarmDelay
  | cleanInterval => .cleanInterval
  | cleanTime => .cleanTime
  | rs485Baud => .commBaud
  | rs485Check => .commParity
  | rs485Id => .commDeviceId
  | backlightSetup => .backlight
  | tempCompensate => .tempCompensate
  | serialNoSetup => .serialNo
  | passwordSetup => .password

/-- The ranges of bit patterns the editor of a page returns with `SET_OK`: the texts to
select from, or the numbers between its limits; a `float` is not looked at. The index of
`backlight` is not repaired at the start and may be any byte. -/
def ranges : Page → List (Nat × Nat)
  | unit => [(0, 1)]
  | relay1AlarmSel => [(0, 1)]
  | relay1AlarmValue => [(0, 0xFFFFFFFF)]
  | relay1AlarmDelay => [(0, 0xFFFFFFFF)]
  | relay2AlarmSel => [(0, 1)]
  | relay2AlarmValue => [(0, 0xFFFFFFFF)]
  | relay2AlarmDelay => [(0, 0xFFFFFFFF)]
  | cleanInterval => [(1, 999999999)]
  | cleanTime => [(1, 999999999)]
  | rs485Baud => [(0, 5)]
  | rs485Check => [(0, 2)]
  | rs485Id => [(1, 247)]
  | backlightSetup => [(0, 255)]
  -- from -1000 to 1000 in two's complement
  | tempCompensate => [(0, 1000), (0xFC18, 0xFFFF)]
  | serialNoSetup => [(0, 999999)]
  | passwordSetup => [(0, 999999)]

def Accepts (page : Page) (retVal : Nat) : Prop :=
  ∃ range ∈ page.ranges, range.1 ≤ retVal ∧ retVal ≤ range.2

instance (page : Page) (retVal : Nat) : Decidable (page.Accepts retVal) :=
  inferInstanceAs (Decidable (∃ range ∈ page.ranges, _))

theorem accepts_fits {page : Page} {retVal : Nat} (accepted : page.Accepts retVal) :
    retVal < 256 ^ page.setting.field.size := by
  obtain ⟨range, member, _, upper⟩ := accepted
  have fits : ∀ range ∈ page.ranges, range.2 < 256 ^ page.setting.field.size := by
    cases page <;> decide
  exact Nat.lt_of_le_of_lt upper (fits range member)

theorem accepts_unrepaired {page : Page} {retVal : Nat} (accepted : page.Accepts retVal)
    {load : Load} (member : load ∈ loads) (same : load.setting = page.setting) :
    load.repaired retVal = retVal := by
  obtain ⟨range, inRanges, _, upper⟩ := accepted
  have passes : ∀ load ∈ loads, load.setting = page.setting → ∀ range ∈ page.ranges,
      ∀ limits ∈ load.repair, range.2 ≤ limits.1 := by
    cases page <;> decide
  unfold Load.repaired
  cases repair : load.repair with
  | none => rfl
  | some limits =>
      have bound := passes load member same range inRanges limits repair
      exact if_neg (Nat.not_lt_of_le (Nat.le_trans upper bound))

end Page

/-- A page left with `SET_OK` and the value its editor returned. -/
structure Save where
  page : Page
  retVal : Nat
  accepted : page.Accepts retVal

def Save.run (device : Device) (save : Save) : Device :=
  save.page.run device save.retVal

def session (image : Memory U8) (saves : List Save) : Device :=
  saves.foldl Save.run (powerOn image)

def restarted (image : Memory U8) (saves : List Save) : Device :=
  powerOn (session image saves).fram

def lastSaved (saves : List Save) (setting : Persisted) : Option Nat :=
  ((saves.filter fun save => save.page.setting = setting).getLast?).map Save.retVal

structure SavesSurvive (image : Memory U8) (saves : List Save) : Prop where
  saved : ∀ setting value, lastSaved saves setting = some value →
    setting.read (restarted image saves).global = value
  kept : ∀ setting, lastSaved saves setting = none →
    setting.read (restarted image saves).global = setting.read (restarted image []).global
  apart : ∀ field : E2PField, (∀ save ∈ saves, field ≠ save.page.setting.field) →
    (session image saves).fram.load field.offset field.size =
      (session image []).fram.load field.offset field.size

section SavePage

variable (setting : Persisted) (device : Device) {retVal : Nat}

theorem savePage_read (fits : retVal < 256 ^ setting.field.size) :
    setting.read (savePage setting device retVal).global = retVal := by
  rw [savePage, Persisted.read_assign_same, Nat.mod_eq_of_lt fits]

theorem savePage_stored (fits : retVal < 256 ^ setting.field.size) :
    setting.field.stored (savePage setting device retVal).fram = retVal := by
  simp only [savePage]
  rw [E2PField.stored_write_same, Persisted.read_assign_same, Nat.mod_mod,
    Nat.mod_eq_of_lt fits]

theorem savePage_bytes_other {field : E2PField} (different : field ≠ setting.field) :
    (savePage setting device retVal).fram.load field.offset field.size =
      device.fram.load field.offset field.size :=
  E2PField.load_write_other different _ _

end SavePage

/-- RAM and FRAM agree on the one setting whose page compares before it saves. -/
def Synced (device : Device) : Prop :=
  Persisted.backlight.read device.global = Persisted.backlight.field.stored device.fram

structure SavesOne (save : Save) (before after : Device) : Prop where
  stored : save.page.setting.field.stored after.fram = save.retVal
  apart : ∀ field : E2PField, field ≠ save.page.setting.field →
    after.fram.load field.offset field.size = before.fram.load field.offset field.size
  synced : Synced after

private theorem savePage_savesOne (save : Save) (device : Device) (synced : Synced device) :
    SavesOne save device (savePage save.page.setting device save.retVal) := by
  have fits := Page.accepts_fits save.accepted
  refine ⟨savePage_stored _ device fits, fun field => savePage_bytes_other _ device, ?_⟩
  unfold Synced
  by_cases own : save.page.setting = .backlight
  · have read := savePage_read save.page.setting device fits
    have stored := savePage_stored save.page.setting device fits
    rw [own] at read stored ⊢
    exact read.trans stored.symm
  · have other : Persisted.backlight ≠ save.page.setting := Ne.symm own
    have bytes := @savePage_bytes_other save.page.setting device save.retVal
      Persisted.backlight.field fun same => other (Persisted.field_injective same)
    rw [E2PField.stored, bytes]
    exact (Persisted.read_assign_other other _ _).trans synced

theorem run_savesOne (save : Save) {device : Device} (synced : Synced device) :
    SavesOne save device (save.run device) := by
  have saved := savePage_savesOne save device synced
  obtain ⟨page, retVal, accepted⟩ := save
  cases page with
  | backlightSetup =>
      unfold Save.run
      by_cases same : retVal = Persisted.backlight.read device.global
      · -- nothing is written: the value is in the FRAM already
        have unchanged : menuBacklightSetup device retVal = device := if_pos same
        simp only [Page.run, unchanged]
        exact ⟨(same.trans synced).symm, fun _ _ => rfl, synced⟩
      · have written : menuBacklightSetup device retVal = savePage .backlight device retVal :=
          if_neg same
        simp only [Page.run, written]
        exact saved
  | _ => exact saved

theorem lastSaved_snoc (saves : List Save) (save : Save) (setting : Persisted) :
    lastSaved (saves ++ [save]) setting =
      if save.page.setting = setting then some save.retVal else lastSaved saves setting := by
  unfold lastSaved
  by_cases own : save.page.setting = setting
  · simp [own]
  · simp [own]

structure SessionSaved (start : Device) (saves : List Save) (device : Device) : Prop where
  stored : ∀ setting, setting.field.stored device.fram =
    (lastSaved saves setting).getD (setting.field.stored start.fram)
  apart : ∀ field : E2PField, (∀ save ∈ saves, field ≠ save.page.setting.field) →
    device.fram.load field.offset field.size = start.fram.load field.offset field.size
  synced : Synced device

theorem session_saved {start : Device} (synced : Synced start) (saves : List Save) :
    SessionSaved start saves (saves.foldl Save.run start) := by
  induction saves using List.reverseRecOn with
  | nil => exact ⟨fun _ => rfl, fun _ _ => rfl, synced⟩
  | append_singleton earlier save ih =>
      rw [List.foldl_append, List.foldl_cons, List.foldl_nil]
      have one := run_savesOne save ih.synced
      refine ⟨?_, ?_, one.synced⟩
      · intro setting
        rw [lastSaved_snoc]
        by_cases own : save.page.setting = setting
        · rw [if_pos own, ← own]
          exact one.stored
        · have bytes := one.apart setting.field fun same =>
            own (Persisted.field_injective same).symm
          rw [if_neg own, ← ih.stored, E2PField.stored, bytes, E2PField.stored]
      · intro field absent
        rw [one.apart field (absent save (by simp))]
        exact ih.apart field fun other member => absent other (by simp [member])

def neverLoaded : List Persisted := [.tempCompensate, .serialNo]

theorem neverLoaded_absent : ∀ setting ∈ neverLoaded, setting ∉ loads.map Load.setting := by
  decide

theorem loaded_or_never (setting : Persisted) :
    (∃ load ∈ loads, load.setting = setting) ∨ setting ∈ neverLoaded := by
  cases setting <;> decide

theorem lastSaved_some {saves : List Save} {setting : Persisted} {value : Nat}
    (last : lastSaved saves setting = some value) :
    ∃ save : Save, save.page.setting = setting ∧ save.retVal = value := by
  obtain ⟨save, found, same⟩ := Option.map_eq_some_iff.mp last
  have member := List.mem_of_getLast? found
  exact ⟨save, of_decide_eq_true (List.mem_filter.mp member).2, same⟩

section Restart

variable {image : Memory U8} (finished : Finished image) (saves : List Save)

include finished

theorem powerOn_synced : Synced (powerOn image) := by
  have member : (⟨.backlight, none⟩ : Load) ∈ loads := by decide
  obtain ⟨read, stored⟩ := powerOn_loaded finished member
  exact read.trans stored.symm

theorem session_finished : Finished (session image saves).fram := by
  have saved := session_saved (powerOn_synced finished) saves
  refine finished_of_bytes ?_ (powerOn_finished finished)
  exact saved.apart .eeprom fun save _ => save.page.setting.field_ne_eeprom.symm

theorem restarted_loaded {load : Load} (member : load ∈ loads) :
    load.setting.read (restarted image saves).global =
      load.repaired ((lastSaved saves load.setting).getD
        (load.setting.field.stored (powerOn image).fram)) := by
  have saved := session_saved (powerOn_synced finished) saves
  have loaded := (powerOn_loaded (session_finished finished saves) member).1
  rw [session, saved.stored] at loaded
  exact loaded

theorem restarted_neverLoaded {setting : Persisted} (never : setting ∈ neverLoaded) :
    setting.read (restarted image saves).global = 0 := by
  have absent := neverLoaded_absent setting never
  have unloaded := (powerOn_unloaded (session_finished finished saves) absent).1
  refine unloaded.trans ?_
  simp only [neverLoaded, List.mem_cons, List.not_mem_nil, or_false] at never
  rcases never with rfl | rfl
  · rfl
  · rfl

end Restart

theorem saves_survive_iff (image : Memory U8) (finished : Finished image) (saves : List Save) :
    SavesSurvive image saves ↔
      ∀ setting ∈ neverLoaded, ∀ value, lastSaved saves setting = some value → value = 0 := by
  constructor
  · intro survive setting never value last
    have read := survive.saved setting value last
    rw [restarted_neverLoaded finished saves never] at read
    exact read.symm
  · intro zero
    constructor
    · intro setting value last
      rcases loaded_or_never setting with ⟨load, member, rfl⟩ | never
      · obtain ⟨save, same, rfl⟩ := lastSaved_some last
        rw [restarted_loaded finished saves member, last]
        exact Page.accepts_unrepaired save.accepted member same.symm
      · rw [restarted_neverLoaded finished saves never, zero setting never value last]
    · intro setting unsaved
      rcases loaded_or_never setting with ⟨load, member, rfl⟩ | never
      · rw [restarted_loaded finished saves member, restarted_loaded finished [] member, unsaved]
        rfl
      · rw [restarted_neverLoaded finished saves never, restarted_neverLoaded finished [] never]
    · intro field absent
      have saved := session_saved (powerOn_synced finished) saves
      simp only [session, List.foldl_nil]
      exact saved.apart field absent

def servicedSaves : List Save :=
  [⟨.relay1AlarmValue, 0x42C80000, by decide⟩, ⟨.rs485Id, 17, by decide⟩,
    ⟨.relay2AlarmSel, 1, by decide⟩, ⟨.rs485Id, 18, by decide⟩]

theorem saves_survive_iff_serviced :
    Finished cFactorySetting ∧
      (SavesSurvive cFactorySetting servicedSaves ↔
        ∀ setting ∈ neverLoaded, ∀ value,
          lastSaved servicedSaves setting = some value → value = 0) :=
  ⟨by decide +kernel, saves_survive_iff cFactorySetting (by decide +kernel) servicedSaves⟩

theorem saves_serialNo_lost :
    ¬ ∀ (image : Memory U8) (saves : List Save), Finished image → SavesSurvive image saves := by
  intro always
  let serial : Save := ⟨.serialNoSetup, 586008, by decide⟩
  have survive := always cFactorySetting [serial] (by decide +kernel)
  have read := survive.saved .serialNo 586008 rfl
  revert read
  decide +kernel

end ZhuoduControl.Settings
