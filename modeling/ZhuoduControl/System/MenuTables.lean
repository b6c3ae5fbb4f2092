import ZhuoduControl.Menu.EditSessions
import ZhuoduControl.Menu.FocusRules
import ZhuoduControl.Modbus.MirrorRuns
import ZhuoduControl.Settings.BootConfiguration
import ZhuoduControl.System.PageSaves

/-! The tables of the menu. The indices into them come from the FRAM, from the pages and,
through the mirror, from the head. -/

set_option autoImplicit false

namespace ZhuoduControl.System

open ZhuoduControl.Library
open ZhuoduControl.Data
open ZhuoduControl.Modbus
open ZhuoduControl.Settings (E2PField Persisted cFactorySetting e2pSize eeUnprotected powerOn
  restoreFactorySettings switched)
open ZhuoduControl.Menu (MenuOp numCali numCali_half rangeSel settings)
open ZhuoduControl.Menu.Box (Clib)
open ZhuoduControl.Menu.BoxPages
open ZhuoduControl.Menu.Edit
open ZhuoduControl.Menu.Frame

/-- The key of a pass of the menu thread, and what it finds in variables that nothing has
been assigned to. -/
structure TurnInput where
  key : KeyCode
  stray : List U8
  uninitReal : DecimalText.Number
  uninit : Nat
  uninitBox : Nat → DecimalText.Number
  mbAddr : U16

/-- The menu with everything its indices come from. -/
structure Station where
  menu : MenuState
  world : PageWorld
  boxes : BoxPage → BoxPageStatics
  usMRegHoldBuf : Memory U16

inductive StationEvent
  | deliver (delivery : Delivery)
  | turn (input : TurnInput)

def boot (image : Memory U8) : Station where
  menu := menuInit
  world := ⟨powerOn image, [], []⟩
  boxes _ := blankPage
  usMRegHoldBuf := fun _ => 0

def boxPageOf : PageFunc → Option BoxPage
  | .menuCoeffABSetup => some .coeffAB
  | .menuSignalSetup => some .signal
  | .menuCanbiZhuodu => some .canbiZhuodu
  | .menuZeroCali => some .zeroCali
  | .menuFullCali => some .fullCali
  | .menuLinearCali => some .linearCali
  | _ => none

/-- What a page assigns before it calls its editor. -/
def prepared (func : PageFunc) (world : PageWorld) : PageWorld :=
  if func = .menuLinearCaliPoint ∧ numCali world.zhuodu < 2 then
    world.assign ⟨.numCali, .half (BitVec.ofNat 16 2), numCali_half (BitVec.ofNat 16 2)⟩
  else world

section Turns

variable (clib : Clib) (station : Station) (input : TurnInput) (func : PageFunc)

def boxCall : Option PagePass :=
  (boxPageOf func).map fun page =>
    page.call clib ⟨input.key, input.uninitBox, station.world.zhuodu⟩ (station.boxes page)

def turnPass : MenuPass where
  key := input.key
  global := (prepared func station.world).device.global
  stray := input.stray
  uninitReal := input.uninitReal
  uninit := input.uninit
  exits := (boxCall clib station input func).any fun pass => !pass.exits.isEmpty

/-- What the page makes of the settings. -/
def pageWrites : PageWorld :=
  let world := prepared func station.world
  let statics := station.menu.statics
  match pageBody func with
  | .select args =>
      afterSelect func (setSelect input.key (args world.device.global) input.stray statics).2 world
  | .number args =>
      let own := args world.device.global
      afterNumber func input.mbAddr
        (setIntFloatMinMax input.key own input.uninitReal { statics with setIntFloat := own }).2
        world
  | .boxes =>
      match boxCall clib station input func with
      | some pass => world.performAll pass.ops
      | none => world
  | _ => world

def boxesAfter (page : BoxPage) : BoxPageStatics :=
  if boxPageOf func = some page then
    ((boxCall clib station input func).map PagePass.statics).getD (station.boxes page)
  else station.boxes page

/-- A pass of the menu thread; after a factory reset the program starts again. -/
def turn : Option Station :=
  match station.menu.active with
  | none =>
      let pass : MenuPass :=
        ⟨input.key, station.world.device.global, input.stray, input.uninitReal, input.uninit, false⟩
      (menuStep station.menu pass).map fun menu => { station with menu := menu }
  | some func =>
      let pass := turnPass clib station input func
      if (runPage pass station.menu.statics (pageBody func)).reset then
        some (boot (station.world.device.fram.setAll restoreFactorySettings))
      else
        (menuStep station.menu pass).map fun menu =>
          { station with
            menu := menu
            world := pageWrites clib station input func
            boxes := boxesAfter clib station input func }

end Turns

/-- The callback of the master stores what a response delivers. -/
def deliver (delivery : Delivery) (station : Station) : Station :=
  let mirror := (delivery.result ⟨station.usMRegHoldBuf, station.world.zhuodu⟩).mirror
  let global := { station.world.device.global with zhuoduData := mirror.zhuoduData }
  { station with
    world := { station.world with device := { station.world.device with global := global } }
    usMRegHoldBuf := mirror.usMRegHoldBuf }

def stationStep (clib : Clib) (station : Station) : StationEvent → Option Station
  | .deliver delivery => some (deliver delivery station)
  | .turn input => turn clib station input

/-- The pages that run `menu_display_zhuodu_xiguangdu`: `menu_main_disp` does at every pass. -/
def showsZhuodu : PageFunc → Bool
  | .menuMainDisp => true
  | .menuDisplayZhuoduXiguangdu => true
  | _ => false

/-- The table `unit` of `menu_display_zhuodu_xiguangdu`. -/
def unitTable : List (List U8) := texts ["NTU", "mg/L"]

/-- The table `str` of `menu_display_formula`. -/
def formulaTable : List (List U8) := texts ["0", "1", "2", "3"]

structure SelectInTable (args : SelectArgs) (input : TurnInput) (statics : Statics) : Prop where
  currIndex : args.currIndex < args.array.length
  eeVal : (openSelect args input.stray statics).select.eeVal < args.array.length
  retVal : ∀ retVal, (setSelect input.key args input.stray statics).2 = .ok retVal →
    retVal < args.array.length

/-- No index that a page uses is behind its table. -/
structure PageInTables (func : PageFunc) (global : GlobalDef) (input : TurnInput)
    (statics : Statics) : Prop where
  select : ∀ args, pageBody func = .select args → SelectInTable (args global) input statics
  unit : showsZhuodu func = true → global.unit.toNat < unitTable.length
  rangeSel : func = .menuDisplayFormula → rangeSel global.zhuoduData < formulaTable.length

def InTables (before : Station) (event : StationEvent) (_ : Station) : Prop :=
  match event with
  | .deliver _ => True
  | .turn input => ∀ func, before.menu.active = some func →
      PageInTables func (prepared func before.world).device.global input before.menu.statics

/-- The start finds an index for `backlight` in the FRAM, which it does not check. -/
def BacklightStored (image : Memory U8) : Prop :=
  Persisted.backlight.field.stored (switched image) < 2

/-- The register that the callback takes for `num_cali` holds at most 4. -/
def NumCaliReported (before : Station) (event : StationEvent) : Prop :=
  match event with
  | .deliver delivery => delivery.first + delivery.count ≤ 0x100 + 100 →
      (delivery.bus ⟨before.usMRegHoldBuf, before.world.zhuodu⟩ 286).toNat ≤ 4
  | .turn _ => True

section Indices

/-- What a member of `global` that is an index may be. -/
structure Indices (global : GlobalDef) : Prop where
  unit : global.unit.toNat < 2
  relay1AlarmType : global.relay1AlarmType.toNat < 2
  relay2AlarmType : global.relay2AlarmType.toNat < 2
  commBaud : global.commBaud.toNat < 6
  commParity : global.commParity.toNat < 3
  backlight : global.backlight.toNat < 2
  tempSelect : global.tempSelect.toNat < 2
  rangeSel : (global.zhuoduData.readHalf .rangeSel).toNat < 4
  numCali : (global.zhuoduData.readHalf .numCali).toNat ≤ 4

variable {global : GlobalDef} {world : PageWorld}

/-- The entries of the table that a setting selects from. -/
def tableSize : Persisted → Option Nat
  | .unit => some 2
  | .relay1AlarmType => some 2
  | .relay2AlarmType => some 2
  | .commBaud => some 6
  | .commParity => some 3
  | .backlight => some 2
  | _ => none

theorem Indices.assign {setting : Persisted} {value : Nat} (indices : Indices global)
    (inside : ∀ size, tableSize setting = some size → value % 256 < size) :
    Indices (setting.assign value global) := by
  have byte (size : Nat) (table : tableSize setting = some size) :
      (BitVec.ofNat 8 value).toNat < size := by
    rw [BitVec.toNat_ofNat]
    exact inside size table
  cases setting with
  | unit => exact { indices with unit := byte 2 rfl }
  | relay1AlarmType => exact { indices with relay1AlarmType := byte 2 rfl }
  | relay2AlarmType => exact { indices with relay2AlarmType := byte 2 rfl }
  | commBaud => exact { indices with commBaud := byte 6 rfl }
  | commParity => exact { indices with commParity := byte 3 rfl }
  | backlight => exact { indices with backlight := byte 2 rfl }
  | _ => exact { indices with }

/-- An assignment that leaves the two indices of the mirror in their ranges. -/
structure Harmless (setting : Setting) : Prop where
  rangeSel : setting.field = .rangeSel → ∀ word, setting.value = .half word → word.toNat < 4
  numCali : setting.field = .numCali → ∀ word, setting.value = .half word → word.toNat ≤ 4

theorem Harmless.of_elsewhere {setting : Setting} (rangeSel : setting.field ≠ .rangeSel)
    (numCali : setting.field ≠ .numCali) : Harmless setting :=
  ⟨fun same => absurd same rangeSel, fun same => absurd same numCali⟩

theorem readHalf_of_read {zhuodu : Zhuodu} {field : Field} {word : U16}
    (half : field.width = .half) (read : zhuodu.read field = .half word) :
    zhuodu.readHalf field = word := by
  rw [Zhuodu.read, half] at read
  exact Value.half.inj read

theorem Indices.zhuodu {zhuodu : Zhuodu} (indices : Indices global)
    (rangeSel : (zhuodu.readHalf .rangeSel).toNat < 4)
    (numCali : (zhuodu.readHalf .numCali).toNat ≤ 4) :
    Indices { global with zhuoduData := zhuodu } :=
  { indices with rangeSel := rangeSel, numCali := numCali }

theorem readHalf_assign_other {zhuodu : Zhuodu} {setting : Setting} {field : Field}
    (half : field.width = .half) (different : field ≠ setting.field) :
    (zhuodu.assign setting).readHalf field = zhuodu.readHalf field := by
  refine readHalf_of_read half ?_
  rw [Zhuodu.read_assign_other zhuodu different, Zhuodu.read, half]
  rfl

theorem readHalf_assign_same (zhuodu : Zhuodu) {setting : Setting}
    (half : setting.field.width = .half) :
    ∃ word, setting.value = .half word ∧
      (zhuodu.assign setting).readHalf setting.field = word := by
  have fits := setting.fits
  rw [half] at fits
  cases value : setting.value with
  | half word =>
      exact ⟨word, rfl, readHalf_of_read half ((zhuodu.read_assign_same setting).trans value)⟩
  | float bits =>
      rw [value] at fits
      cases fits

theorem Indices.world_assign {setting : Setting} (indices : Indices world.device.global)
    (harmless : Harmless setting) : Indices (world.assign setting).device.global := by
  refine indices.zhuodu ?_ ?_
  · by_cases own : setting.field = .rangeSel
    · obtain ⟨word, value, read⟩ :=
        readHalf_assign_same world.zhuodu (own ▸ rfl : setting.field.width = .half)
      rw [← own, read]
      exact harmless.rangeSel own word value
    · rw [readHalf_assign_other rfl (Ne.symm own)]
      exact indices.rangeSel
  · by_cases own : setting.field = .numCali
    · obtain ⟨word, value, read⟩ :=
        readHalf_assign_same world.zhuodu (own ▸ rfl : setting.field.width = .half)
      rw [← own, read]
      exact harmless.numCali own word value
    · rw [readHalf_assign_other rfl (Ne.symm own)]
      exact indices.numCali

theorem Indices.performAll {ops : List MenuOp} (indices : Indices world.device.global)
    (harmless : ∀ setting ∈ settings ops, Harmless setting) :
    Indices (world.performAll ops).device.global := by
  induction ops generalizing world with
  | nil => exact indices
  | cons op rest ih =>
      cases op with
      | send msg => exact ih indices harmless
      | repair setting =>
          exact ih (indices.world_assign (harmless setting (.head _)))
            fun other member => harmless other (.tail _ member)
      | assign setting =>
          exact ih (indices.world_assign (harmless setting (.head _)))
            fun other member => harmless other (.tail _ member)

end Indices

section Ops

/-- What a page queues and assigns leaves the two indices in their ranges. -/
def HarmlessOps (ops : List MenuOp) : Prop := ∀ setting ∈ settings ops, Harmless setting

theorem HarmlessOps.nil : HarmlessOps [] := nofun

theorem HarmlessOps.of_fields {ops : List MenuOp}
    (elsewhere : ∀ field ∈ (settings ops).map Setting.field,
      field ≠ .rangeSel ∧ field ≠ .numCali) : HarmlessOps ops := by
  intro setting member
  obtain ⟨rangeSel, numCali⟩ := elsewhere _ (List.mem_map.mpr ⟨setting, member, rfl⟩)
  exact .of_elsewhere rangeSel numCali

variable (zhuodu : Zhuodu)

theorem menuRangeSelect_harmless {retVal : U8} (inside : retVal.toNat < 4) :
    HarmlessOps (Menu.menuRangeSelect retVal) := by
  intro setting member
  obtain rfl := List.mem_singleton.mp member
  refine ⟨fun _ word value => ?_, nofun⟩
  cases value
  rw [BitVec.toNat_setWidth]
  omega

theorem menuLinearCaliPoint_harmless {retVal : U8} (inside : retVal.toNat < 3) :
    HarmlessOps (Menu.menuLinearCaliPoint zhuodu retVal) := by
  have low (setting : Setting) (field : setting.field = .numCali)
      (small : ∀ word, setting.value = .half word → word.toNat ≤ 4) : Harmless setting :=
    ⟨fun same => (nomatch field.symm.trans same), fun _ => small⟩
  have point : ((retVal.zeroExtend 16 + 2 : U16)).toNat ≤ 4 := by
    rw [BitVec.toNat_add, BitVec.toNat_setWidth, Nat.mod_eq_of_lt (by omega : retVal.toNat < 2 ^ 16)]
    have two : (2 : U16).toNat = 2 := rfl
    omega
  intro setting member
  unfold Menu.menuLinearCaliPoint at member
  rw [Menu.settings_append] at member
  rcases List.mem_append.mp member with repaired | assigned
  · split at repaired
    · obtain rfl := List.mem_singleton.mp repaired
      refine low _ rfl fun word value => ?_
      cases value
      decide
    · cases repaired
  · obtain rfl := List.mem_singleton.mp assigned
    refine low _ rfl fun word value => ?_
    cases value
    exact point

theorem menuRangeSetup_harmless (stale : U16) (retVal : U32) :
    HarmlessOps (Menu.menuRangeSetup zhuodu stale retVal) := by
  apply HarmlessOps.of_fields
  unfold Menu.menuRangeSetup
  split <;> simp [settings]

theorem menuZeroCompensate_harmless (retVal : U32) :
    HarmlessOps (Menu.menuZeroCompensate zhuodu retVal) := by
  apply HarmlessOps.of_fields
  unfold Menu.menuZeroCompensate
  split <;> simp [settings]

theorem menuCoeffAB_harmless (numberBox numberBox2 : U32) :
    HarmlessOps (Menu.menuCoeffAB zhuodu numberBox numberBox2) := by
  apply HarmlessOps.of_fields
  unfold Menu.menuCoeffAB
  split <;> simp [settings]

theorem darkCommand_silent : settings (Menu.darkCommand zhuodu) = [] := by
  unfold Menu.darkCommand
  split <;> rfl

theorem menuSignalSetup_harmless (numberBox numberBox2 : U32) :
    HarmlessOps (Menu.menuSignalSetup zhuodu numberBox numberBox2) := by
  apply HarmlessOps.of_fields
  unfold Menu.menuSignalSetup
  rw [Menu.settings_append, darkCommand_silent]
  simp [settings]

theorem menuLinearCaliSend_silent (numberBox : Fin 8 → U32) :
    settings (Menu.menuLinearCaliSend zhuodu numberBox) = [] := by
  unfold Menu.menuLinearCaliSend
  split <;> rfl

theorem HarmlessOps.append {left right : List MenuOp} (first : HarmlessOps left)
    (second : HarmlessOps right) : HarmlessOps (left ++ right) := by
  intro setting member
  rw [Menu.settings_append] at member
  rcases List.mem_append.mp member with inLeft | inRight
  · exact first setting inLeft
  · exact second setting inRight

theorem HarmlessOps.of_silent {ops : List MenuOp} (silent : settings ops = []) :
    HarmlessOps ops := by
  intro setting member
  rw [silent] at member
  cases member

theorem btnProc_harmless {msg : KeyCode} {status : Menu.Box.BoxStat} {btnEvent : List MenuOp}
    (silent : settings btnEvent = []) : HarmlessOps (btnProc msg status btnEvent) := by
  unfold btnProc
  split
  · exact .of_silent silent
  · exact .nil

theorem Flow.finish_harmless {flow : Flow} {tail : PagePass → PagePass}
    (switched : HarmlessOps flow.pass.ops)
    (ends : ∀ pass, HarmlessOps pass.ops → HarmlessOps (tail pass).ops) :
    HarmlessOps (flow.finish tail).ops := by
  cases flow with
  | returns pass => exact switched
  | breaks pass => exact ends pass switched

variable (input : PageInput) (statics : BoxPageStatics)

theorem coeffABSwitch_harmless : HarmlessOps (coeffABSwitch input statics).pass.ops := by
  unfold coeffABSwitch
  repeat' split
  all_goals first | exact .nil | exact menuCoeffAB_harmless _ _ _

theorem signalSwitch_harmless : HarmlessOps (signalSwitch input statics).pass.ops := by
  unfold signalSwitch signalCaseThree
  repeat' split
  all_goals first | exact .nil | exact menuSignalSetup_harmless _ _ _

theorem zeroCaliSwitch_harmless : HarmlessOps (zeroCaliSwitch input statics).pass.ops := by
  unfold zeroCaliSwitch
  repeat' split
  all_goals first
    | exact .nil
    | exact btnProc_harmless (darkCommand_silent _)
    | exact btnProc_harmless (by rfl)

theorem fullCaliSwitch_harmless : HarmlessOps (fullCaliSwitch input statics).pass.ops := by
  unfold fullCaliSwitch
  repeat' split
  all_goals first | exact .nil | exact btnProc_harmless (by rfl)

theorem linearCaliSwitch_harmless : HarmlessOps (linearCaliSwitch input statics).pass.ops := by
  have sent := menuLinearCaliSend_silent input.zhuodu fun index => (statics.box index).setFloat
  unfold linearCaliSwitch linearCaliCaseTwo
  repeat' split
  all_goals first | exact .nil | exact .of_silent sent

theorem boxPage_harmless (clib : Clib) (page : BoxPage) :
    HarmlessOps (page.call clib input statics).ops := by
  cases page with
  | coeffAB => exact Flow.finish_harmless (coeffABSwitch_harmless input statics) fun _ kept => kept
  | signal => exact Flow.finish_harmless (signalSwitch_harmless input statics) fun _ kept => kept
  | canbiZhuodu =>
      show HarmlessOps (menuCanbiZhuodu clib input statics).ops
      unfold menuCanbiZhuodu
      split
      · exact .nil
      · dsimp only
        split
        · exact .of_fields (by simp [Menu.Commit.ops, Menu.menuCanbiZhuodu, settings, BoxPageStatics.leafExit])
        · exact .nil
  | zeroCali =>
      refine Flow.finish_harmless (zeroCaliSwitch_harmless input statics) fun _ kept => ?_
      exact (kept.append (btnProc_harmless rfl)).append (btnProc_harmless (darkCommand_silent _))
  | fullCali =>
      refine Flow.finish_harmless (fullCaliSwitch_harmless input statics) fun _ kept => ?_
      exact kept.append (btnProc_harmless rfl)
  | linearCali =>
      exact Flow.finish_harmless (linearCaliSwitch_harmless input statics) fun _ kept => kept

end Ops

section Saves

variable {world : PageWorld} {func : PageFunc}

theorem Indices.store {setting : Persisted} {retVal : Nat} (indices : Indices world.device.global)
    (inside : ∀ size, tableSize setting = some size → retVal % 256 < size) :
    Indices (world.store (Settings.savePage setting) retVal).device.global :=
  indices.assign inside

theorem Indices.backlight_store {retVal : Nat} (indices : Indices world.device.global)
    (inside : retVal < 2) :
    Indices (world.store Settings.menuBacklightSetup retVal).device.global := by
  have saved : Indices (world.store (Settings.savePage .backlight) retVal).device.global := by
    refine indices.store fun size table => ?_
    cases table
    omega
  by_cases same : retVal = Persisted.backlight.read world.device.global
  · have kept : Settings.menuBacklightSetup world.device retVal = world.device := if_pos same
    rw [PageWorld.store, kept]
    exact indices
  · have written : Settings.menuBacklightSetup world.device retVal =
        Settings.savePage .backlight world.device retVal := if_neg same
    rw [PageWorld.store, written]
    exact saved

theorem Indices.relayTest (setStat : SetStat U8) (indices : Indices world.device.global) :
    Indices (menuRelayTestPage setStat world).device.global := by
  unfold menuRelayTestPage menuRelayTest
  cases setStat with
  | ok retVal =>
      dsimp only
      split
      · exact { indices with }
      · exact { indices with }
  | exit => exact { indices with }
  | ing => exact { indices with }
  | maxMinError => exact { indices with }

theorem Indices.tempSelected {retVal : U8} (indices : Indices world.device.global)
    (inside : retVal.toNat < 2) : Indices (menuTempSelect retVal world).device.global := by
  unfold menuTempSelect
  dsimp only
  split
  · exact indices
  · exact { indices with tempSelect := inside }

/-- A page with `set_select` saves an index into its own table. -/
theorem Indices.saveSelected {args : GlobalDef → SelectArgs} {retVal : Nat} {global : GlobalDef}
    (indices : Indices world.device.global) (body : pageBody func = .select args)
    (inside : retVal < (args global).array.length) :
    Indices (saveSelected func (BitVec.ofNat 8 retVal) world).device.global := by
  have entries (size : Nat) (small : size ≤ 256)
      (length : (args global).array.length = size) : (BitVec.ofNat 8 retVal).toNat < size := by
    rw [length] at inside
    rw [BitVec.toNat_ofNat]
    omega
  have stored {setting : Persisted} {size : Nat} (table : tableSize setting = some size)
      (small : size ≤ 256) (length : (args global).array.length = size) :
      Indices (world.store (Settings.savePage setting) (BitVec.ofNat 8 retVal).toNat).device.global := by
    refine indices.store fun other again => ?_
    cases table.symm.trans again
    have below := entries size small length
    omega
  cases func with
  | menuUnit => cases body; exact stored rfl (by decide) rfl
  | menuRelay1AlarmSel => cases body; exact stored rfl (by decide) rfl
  | menuRelay2AlarmSel => cases body; exact stored rfl (by decide) rfl
  | menuRs485Baud => cases body; exact stored rfl (by decide) rfl
  | menuRs485Check => cases body; exact stored rfl (by decide) rfl
  | menuBacklightSetup => cases body; exact indices.backlight_store (entries 2 (by decide) rfl)
  | menuRangeSelect =>
      cases body
      exact indices.performAll (menuRangeSelect_harmless (entries 4 (by decide) rfl))
  | menuLinearCaliPoint =>
      cases body
      exact indices.performAll (menuLinearCaliPoint_harmless _ (entries 3 (by decide) rfl))
  | menuTempSelect => cases body; exact indices.tempSelected (entries 2 (by decide) rfl)
  | menuRelayTest => cases body; exact indices.relayTest (.ok _)
  | _ => cases body

theorem Indices.saveNumber (stale : U16) (retVal : DecimalText.Number)
    (indices : Indices world.device.global) :
    Indices (saveNumber func stale retVal world).device.global := by
  cases func with
  | menuRangeSetup => exact indices.performAll (menuRangeSetup_harmless _ _ _)
  | menuZeroCompensate => exact indices.performAll (menuZeroCompensate_harmless _ _)
  | menuRelay1AlarmValue => exact indices.store nofun
  | menuRelay1AlarmDelay => exact indices.store nofun
  | menuRelay2AlarmValue => exact indices.store nofun
  | menuRelay2AlarmDelay => exact indices.store nofun
  | menuCleanInterval => exact indices.store nofun
  | menuCleanTime => exact indices.store nofun
  | menuRs485Id => exact indices.store nofun
  | menuTempCompensate => exact indices.store nofun
  | menuSerialNoSetup => exact indices.store nofun
  | menuPasswordSetup => exact indices.store nofun
  | _ => exact indices

theorem Indices.prepared (indices : Indices world.device.global) :
    Indices (prepared func world).device.global := by
  unfold System.prepared
  split
  · refine indices.world_assign ⟨?_, fun _ word value => ?_⟩
    · intro same
      cases same
    · cases value
      decide
  · exact indices

end Saves

section Selecting

variable {func : PageFunc} {args : GlobalDef → SelectArgs} {statics : Statics}

theorem Indices.currIndex {global : GlobalDef} (indices : Indices global)
    (body : pageBody func = .select args) :
    (args global).currIndex < (args global).array.length := by
  cases func with
  | menuUnit => cases body; exact indices.unit
  | menuRelay1AlarmSel => cases body; exact indices.relay1AlarmType
  | menuRelay2AlarmSel => cases body; exact indices.relay2AlarmType
  | menuRs485Baud => cases body; exact indices.commBaud
  | menuRs485Check => cases body; exact indices.commParity
  | menuBacklightSetup => cases body; exact indices.backlight
  | menuRelayTest => cases body; exact indices.backlight
  | menuRangeSelect => cases body; exact indices.rangeSel
  | menuTempSelect => cases body; exact indices.tempSelect
  | menuLinearCaliPoint =>
      cases body
      have points := indices.numCali
      show (global.zhuoduData.readHalf .numCali).toNat - 2 < 3
      omega
  | _ => cases body

theorem table_length (body : pageBody func = .select args) (global other : GlobalDef) :
    (args global).array.length = (args other).array.length := by
  cases func <;> cases body <;> rfl

end Selecting

/-- What the station keeps as long as only indices in their ranges come in. -/
structure Ready (station : Station) : Prop where
  running : Running station.menu
  owned : Owned station.menu
  indices : Indices station.world.device.global
  selecting : ∀ func args, station.menu.active = some func → pageBody func = .select args →
    station.menu.statics.select.flag1st = true →
      ∀ global, station.menu.statics.select.eeVal < (args global).array.length

section Steps

variable {clib : Clib} {station : Station} {input : TurnInput} {func : PageFunc}

theorem Ready.selectInTable {args : GlobalDef → SelectArgs} (input : TurnInput)
    (ready : Ready station) (called : station.menu.active = some func) (body : pageBody func = .select args) :
    SelectInTable (args (prepared func station.world).device.global) input
      station.menu.statics := by
  have indices : Indices (prepared func station.world).device.global := ready.indices.prepared
  have currIndex := indices.currIndex body
  have opened : (openSelect (args (prepared func station.world).device.global) input.stray
      station.menu.statics).select.eeVal <
        (args (prepared func station.world).device.global).array.length := by
    unfold openSelect showSelect beginSelect
    dsimp only
    split
    · next raised => exact ready.selecting func args called body raised _
    · exact Nat.lt_of_le_of_lt (Nat.mod_le _ _) currIndex
  exact ⟨currIndex, opened, (selectKey_inTable input.key opened).2⟩

theorem Ready.inTables (ready : Ready station) (event : StationEvent) (after : Station) :
    InTables station event after := by
  cases event with
  | deliver delivery => trivial
  | turn input =>
      intro func called
      refine ⟨fun args body => ready.selectInTable input called body, fun _ => ?_, fun _ => ?_⟩
      · exact ready.indices.prepared.unit
      · exact ready.indices.prepared.rangeSel

theorem Ready.pageWrites (ready : Ready station) (called : station.menu.active = some func) :
    Indices (pageWrites clib station input func).device.global := by
  have indices : Indices (prepared func station.world).device.global := ready.indices.prepared
  unfold System.pageWrites
  cases body : pageBody func with
  | select args =>
      have inTable := (ready.selectInTable input called body).retVal
      dsimp only
      cases setStat : (setSelect input.key (args (prepared func station.world).device.global)
          input.stray station.menu.statics).2 with
      | ok retVal => exact indices.saveSelected body (inTable retVal setStat)
      | exit =>
          change Indices (if func = .menuRelayTest then menuRelayTestPage .exit _
            else _).device.global
          split
          · exact indices.relayTest .exit
          · exact indices
      | ing => exact indices
      | maxMinError => exact indices
  | number args =>
      dsimp only
      unfold afterNumber
      split
      · exact indices.saveNumber _ _
      · exact indices
  | boxes =>
      dsimp only
      unfold boxCall
      cases boxPageOf func with
      | none => exact indices
      | some page => exact indices.performAll (boxPage_harmless _ _ clib page)
  | _ => exact indices

theorem boot_ready {image : Memory U8} (backlight : BacklightStored image) :
    Ready (boot image) := by
  have read (setting : Persisted) (limits : Nat × Nat)
      (member : (⟨setting, some limits⟩ : Settings.Load) ∈ Settings.loads) :
      setting.read (powerOn image).global ≤ limits.1 :=
    (Settings.globalInit_passes ⟨image, .cleared⟩ member).1 limits.1 limits.2 rfl
  have stored := (Settings.globalInit_loaded ⟨image, .cleared⟩
    (by decide : (⟨.backlight, none⟩ : Settings.Load) ∈ Settings.loads)).1
  have unread := Settings.globalInit_unread ⟨image, .cleared⟩
  have indices : Indices (powerOn image).global :=
    { unit := Nat.lt_succ_of_le (read .unit (1, 0) (by decide))
      relay1AlarmType := Nat.lt_succ_of_le (read .relay1AlarmType (1, 1) (by decide))
      relay2AlarmType := Nat.lt_succ_of_le (read .relay2AlarmType (1, 1) (by decide))
      commBaud := Nat.lt_succ_of_le (read .commBaud (5, 3) (by decide))
      commParity := Nat.lt_succ_of_le (read .commParity (2, 0) (by decide))
      backlight := by
        have same : (powerOn image).global.backlight.toNat =
            Persisted.backlight.field.stored (switched image) := stored
        rw [same]
        exact backlight
      tempSelect := by
        rw [show (powerOn image).global.tempSelect = 0 from unread.tempSelect]
        decide
      rangeSel := by
        rw [show (powerOn image).global.zhuoduData = powerUp.zhuoduData from unread.zhuoduData]
        decide +kernel
      numCali := by
        rw [show (powerOn image).global.zhuoduData = powerUp.zhuoduData from unread.zhuoduData]
        decide +kernel }
  exact ⟨menuInit_running, cleared_idle.owned, indices, nofun⟩

/-- A factory reset stores an index for `backlight`. -/
theorem reset_backlightStored (fram : Memory U8) :
    BacklightStored (fram.setAll restoreFactorySettings) := by
  have behind : 2 ≤ eeUnprotected := by decide +kernel
  have completes : Settings.eeprom (fram.setAll restoreFactorySettings) =
        Settings.eeResetFactoryOver ∧
      ∀ address, eeUnprotected ≤ address → address < e2pSize →
        fram.setAll restoreFactorySettings address = cFactorySetting address :=
    Settings.markedReset_completes behind fram
  obtain ⟨marker, factory⟩ := completes
  have lower : eeUnprotected ≤ E2PField.backlight.offset := by decide +kernel
  have upper : E2PField.backlight.offset + E2PField.backlight.size ≤ e2pSize := by decide +kernel
  have small : E2PField.backlight.stored cFactorySetting < 2 := by decide +kernel
  have loaded : (fram.setAll restoreFactorySettings).load E2PField.backlight.offset
      E2PField.backlight.size =
        cFactorySetting.load E2PField.backlight.offset E2PField.backlight.size := by
    refine Memory.load_congr fun address above below => ?_
    exact factory address (Nat.le_trans lower above) (Nat.lt_of_lt_of_le below upper)
  unfold BacklightStored
  rw [Settings.switched_of_finished (.inr marker)]
  show LittleEndian.decode ((fram.setAll restoreFactorySettings).load E2PField.backlight.offset
    E2PField.backlight.size) < 2
  rw [loaded]
  exact small

theorem Indices.deliver {delivery : Delivery} (indices : Indices station.world.device.global)
    (reported : NumCaliReported station (.deliver delivery)) :
    Indices (deliver delivery station).world.device.global := by
  let mirror : Mirror := ⟨station.usMRegHoldBuf, station.world.zhuodu⟩
  by_cases inside : delivery.first + delivery.count ≤ 0x100 + 100
  · have copiedInto : (delivery.result mirror).mirror.zhuoduData =
        copied mirror.zhuoduData (delivery.bus mirror) :=
      (callback_high_accepted _ _ mirror _ delivery.inRange inside).2.2
    refine indices.zhuodu ?_ ?_
    · have kept := read_copied_kept (by decide : Field.rangeSel ∈ keptFields) mirror.zhuoduData
        (delivery.bus mirror)
      have same : (copied mirror.zhuoduData (delivery.bus mirror)).readHalf .rangeSel =
          mirror.zhuoduData.readHalf .rangeSel := readHalf_of_read rfl kept
      show ((delivery.result mirror).mirror.zhuoduData.readHalf .rangeSel).toNat < 4
      rw [copiedInto, same]
      exact indices.rangeSel
    · have points : (copied mirror.zhuoduData (delivery.bus mirror)).readHalf .numCali =
          delivery.bus mirror 286 := readHalf_of_read rfl (read_copied_numCali _ _)
      show ((delivery.result mirror).mirror.zhuoduData.readHalf .numCali).toNat ≤ 4
      rw [copiedInto, points]
      exact reported inside
  · have refused : (delivery.result mirror).mirror = mirror :=
      congrArg CallbackResult.mirror
        (callback_high_rejected _ _ mirror _ delivery.inRange (Nat.lt_of_not_le inside))
    refine indices.zhuodu ?_ ?_
    · show ((delivery.result mirror).mirror.zhuoduData.readHalf .rangeSel).toNat < 4
      rw [refused]
      exact indices.rangeSel
    · show ((delivery.result mirror).mirror.zhuoduData.readHalf .numCali).toNat ≤ 4
      rw [refused]
      exact indices.numCali

theorem Ready.menuStep {menu : MenuState} (ready : Ready station)
    (stepped : Menu.Edit.menuStep station.menu (turnPass clib station input func) = some menu)
    (called : station.menu.active = some func) :
    Running menu ∧ Owned menu ∧ ∀ other args, menu.active = some other →
      pageBody other = .select args → menu.statics.select.flag1st = true →
        ∀ global, menu.statics.select.eeVal < (args global).array.length := by
  obtain ⟨running, turn⟩ := ready.running.step stepped
  obtain ⟨owned, free⟩ := turn.owned ready.owned
  refine ⟨running, owned, ?_⟩
  intro other args active body raised global
  rcases free with idle | ⟨page, again⟩
  · cases (idle .select).symm.trans raised
  · cases again.called.symm.trans called
    cases again.again.symm.trans active
    have result : (runPage (turnPass clib station input func) station.menu.statics
        (pageBody func)).statics =
          (setSelect input.key (args (prepared func station.world).device.global) input.stray
            station.menu.statics).1 := by
      rw [body]
      rfl
    rw [again.statics, result, table_length body global]
    exact (selectKey_inTable input.key (ready.selectInTable input called body).eeVal).1

theorem Ready.step {event : StationEvent} {after : Station} (ready : Ready station)
    (reported : NumCaliReported station event)
    (stepped : stationStep clib station event = some after) : Ready after := by
  cases event with
  | deliver delivery =>
      cases Option.some.inj stepped
      exact ⟨ready.running, ready.owned, ready.indices.deliver reported, ready.selecting⟩
  | turn input =>
      replace stepped : turn clib station input = some after := stepped
      unfold turn at stepped
      split at stepped
      · next listed =>
          obtain ⟨menu, moved, rfl⟩ := Option.map_eq_some_iff.mp stepped
          obtain ⟨running, turned⟩ := ready.running.step moved
          obtain ⟨owned, free⟩ := turned.owned ready.owned
          refine ⟨running, owned, ready.indices, ?_⟩
          intro func args active body raised
          rcases free with idle | ⟨page, again⟩
          · cases (idle .select).symm.trans raised
          · cases again.called.symm.trans listed
      · next func called =>
          dsimp only at stepped
          split at stepped
          · cases Option.some.inj stepped
            exact boot_ready (reset_backlightStored _)
          · obtain ⟨menu, moved, rfl⟩ := Option.map_eq_some_iff.mp stepped
            obtain ⟨running, owned, selecting⟩ := ready.menuStep moved called
            exact ⟨running, owned, ready.pageWrites called, selecting⟩

/-- While a list is shown a pass writes nothing. -/
theorem turn_list {after : Station} (listed : station.menu.active = none)
    (turned : turn clib station input = some after) :
    after.world = station.world ∧ after.boxes = station.boxes := by
  unfold turn at turned
  rw [listed] at turned
  obtain ⟨menu, _, rfl⟩ := Option.map_eq_some_iff.mp turned
  exact ⟨rfl, rfl⟩

theorem turn_world {after : Station} (called : station.menu.active = some func)
    (runs : (runPage (turnPass clib station input func) station.menu.statics
      (pageBody func)).reset = false)
    (turned : turn clib station input = some after) :
    after.world = pageWrites clib station input func := by
  unfold turn at turned
  rw [called] at turned
  dsimp only at turned
  rw [runs, if_neg Bool.false_ne_true] at turned
  obtain ⟨menu, _, rfl⟩ := Option.map_eq_some_iff.mp turned
  rfl

end Steps

/-- No index is behind its table, as long as the image has one for `backlight` and the head
reports at most 4 where the callback reads `num_cali`. -/
theorem indices_inTables (clib : Clib) (image : Memory U8) (events : List StationEvent)
    (stored : BacklightStored image)
    (reported : Run.Guarded (stationStep clib) NumCaliReported (boot image) events) :
    Run.AllSteps (stationStep clib) InTables (boot image) events := by
  refine Run.allSteps_of_guarded ?_ (boot_ready stored) reported
  intro before event after ready allowed stepped
  exact ⟨ready.step allowed stepped, ready.inTables event after⟩

section Instance

open ZhuoduControl.Menu.Box (plainClib)

def press (key : KeyCode) : StationEvent := .turn ⟨key, [], .nan, 0, fun _ => .nan, 0⟩

def zeroPoll : Delivery := ⟨⟨0, 0⟩, 0, fun _ => 0, 257, 31, by decide⟩

/-- From the page of the root to node 0.0.0, where the second unit is saved, and back. -/
def unitKeys : List StationEvent :=
  [.none, .downOk, .downOk, .downOk, .downUp, .downMenu, .downMenu, .downMenu, .downMenu,
    .none].map press

theorem guarded_turns {clib : Clib} (keys : List KeyCode) (station : Station) :
    Run.Guarded (stationStep clib) NumCaliReported station (keys.map press) := by
  induction keys generalizing station with
  | nil => trivial
  | cons key rest ih => exact ⟨trivial, fun after _ => ih after⟩

theorem indices_inTables_factory :
    BacklightStored cFactorySetting ∧
      Run.AllSteps (stationStep plainClib) InTables (boot cFactorySetting)
        (.deliver zeroPoll :: unitKeys) ∧
      (Run.run (stationStep plainClib) (boot cFactorySetting)
        (.deliver zeroPoll :: unitKeys)).map (fun station =>
          (station.menu.active, station.world.device.global.unit)) =
        some (some .menuMainDisp, 1) := by
  have stored : BacklightStored cFactorySetting := by
    unfold BacklightStored
    decide +kernel
  have reported : Run.Guarded (stationStep plainClib) NumCaliReported (boot cFactorySetting)
      (.deliver zeroPoll :: unitKeys) :=
    ⟨fun _ => by decide +kernel, fun after _ => guarded_turns _ after⟩
  refine ⟨stored, indices_inTables plainClib cFactorySetting _ stored reported, ?_⟩
  decide +kernel

/-- The factory settings with an entry for `backlight` that the table does not have. -/
def dimmedImage : Memory U8 := E2PField.backlight.write 2 cFactorySetting

/-- The keys from the page of the root to the page of node 0.4.1. -/
def backlightKeys : List StationEvent :=
  [.downOk, .downDown, .downDown, .downDown, .downDown, .downOk, .downDown, .downOk].map press

theorem backlight_behind_table :
    ¬ ∀ (clib : Clib) (image : Memory U8) (events : List StationEvent),
      Run.AllSteps (stationStep clib) InTables (boot image) events := by
  intro always
  have all := always plainClib dimmedImage (backlightKeys ++ [press .none])
  have found : (Run.run (stationStep plainClib) (boot dimmedImage) backlightKeys).map
      (fun station => (station.menu.active, station.world.device.global.backlight)) =
        some (some .menuBacklightSetup, 2) := by
    decide +kernel
  have goes_on : (Run.run (stationStep plainClib) (boot dimmedImage)
      (backlightKeys ++ [press .none])).isSome = true := by
    decide +kernel
  obtain ⟨after, ended⟩ := Option.isSome_iff_exists.mp goes_on
  obtain ⟨before, began, stepped⟩ := Run.run_concat_some ended
  rw [began] at found
  obtain ⟨active, backlight⟩ := Prod.mk.inj (Option.some.inj found)
  have inTables := all.last began stepped .menuBacklightSetup active
  have below := (inTables.select _ rfl).currIndex
  have entry : before.world.device.global.backlight.toNat < 2 := below
  rw [backlight] at entry
  exact absurd entry (by decide)

end Instance

end ZhuoduControl.System
