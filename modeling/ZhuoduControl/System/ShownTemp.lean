import ZhuoduControl.System.MenuTables

/-! `global.temp` is assigned by three pages: those that run the display at every call, and
the page of `temp_select` when it changes the mode. -/

set_option autoImplicit false

namespace ZhuoduControl.System

open ZhuoduControl.Library
open ZhuoduControl.Data
open ZhuoduControl.Settings (Persisted cFactorySetting)
open ZhuoduControl.Menu (MenuOp)
open ZhuoduControl.Menu.Box (Clib)
open ZhuoduControl.Menu.Edit
open ZhuoduControl.Menu.Frame

def PageWorld.temp (world : PageWorld) : U16 := world.device.global.temp

/-- What `menu_display_zhuodu_xiguangdu` assigns before it looks at its key. -/
def menuDisplayZhuoduXiguangdu (world : PageWorld) : PageWorld :=
  let global := world.device.global
  let temp := if global.tempSelect = 0 then world.zhuodu.readHalf .temp else 250
  { world with device := { world.device with global := { global with temp := temp } } }

/-- The page that is called next runs the display: `menu_main_disp` does at every pass. -/
def Station.Displays (station : Station) : Prop := station.menu.active.any showsZhuodu = true

instance (station : Station) : Decidable station.Displays := inferInstanceAs (Decidable (_ = _))

def Station.shown (station : Station) : Station :=
  if station.Displays then { station with world := menuDisplayZhuoduXiguangdu station.world }
  else station

/-- `stationStep` with the assignment of the display. -/
def tempStep (clib : Clib) (station : Station) : StationEvent → Option Station
  | .deliver delivery => some (deliver delivery station)
  | .turn input => turn clib station.shown input

/-- The value that comes with `SET_OK` of `menu_temp_select`. -/
def chosenMode (station : Station) (input : TurnInput) : Menu.Edit.SetStat Nat :=
  let args : SelectArgs :=
    ⟨texts ["自动", "手动"], station.world.device.global.tempSelect.toNat⟩
  (setSelect input.key args input.stray station.menu.statics).2

/-- The calls that assign `global.temp`. -/
inductive AssignsTemp (station : Station) (input : TurnInput) : Prop
  | display (called : station.Displays)
  | select {retVal} (called : station.menu.active = some .menuTempSelect)
      (chosen : chosenMode station input = .ok retVal)
      (other : BitVec.ofNat 8 retVal ≠ station.world.device.global.tempSelect)

/-- The temperature of the head with the compensation. -/
def compensatedTemp (global : GlobalDef) : Int :=
  (global.zhuoduData.readHalf .temp).toInt + global.tempCompensate.toInt

def SumFits (global : GlobalDef) : Prop :=
  -32768 ≤ compensatedTemp global ∧ compensatedTemp global ≤ 32767

structure TempCompensated (global : GlobalDef) : Prop where
  automatic : global.tempSelect = 0 → SumFits global →
    global.temp.toInt = compensatedTemp global
  manual : global.tempSelect = 1 → global.temp.toInt = 250

/-- A call that assigns the temperature has compensated it; the others leave it as it was, but
for a restart. -/
def Compensates (before : Station) (event : StationEvent) (after : Station) : Prop :=
  match event with
  | .deliver _ => True
  | .turn input => (AssignsTemp before input → TempCompensated after.world.device.global) ∧
      (¬ AssignsTemp before input →
        after.world.temp = before.world.temp ∨ ∃ image, after = boot image)

/-- The display runs in automatic mode only without a compensation. -/
def ShownUncompensated (before : Station) (event : StationEvent) (_ : Station) : Prop :=
  match event with
  | .deliver _ => True
  | .turn _ => before.Displays → before.world.device.global.tempSelect = 0 →
      SumFits before.world.device.global → before.world.device.global.tempCompensate = 0

section Sums

variable {global : GlobalDef}

theorem toInt_sum (fits : SumFits global) :
    (global.tempCompensate + global.zhuoduData.readHalf .temp).toInt = compensatedTemp global := by
  obtain ⟨lower, upper⟩ := fits
  rw [BitVec.toInt_add, Int.add_comm]
  exact Int.bmod_eq_of_le (by unfold compensatedTemp at lower; omega)
    (by unfold compensatedTemp at upper; omega)

theorem toInt_eq_sum_iff :
    (global.zhuoduData.readHalf .temp).toInt = compensatedTemp global ↔
      global.tempCompensate = 0 := by
  have zero : global.tempCompensate = 0 ↔ global.tempCompensate.toInt = 0 := by
    rw [← BitVec.toInt_inj]
    rfl
  rw [zero]
  unfold compensatedTemp
  omega

end Sums

section Unassigned

variable {world : PageWorld} {func : PageFunc}

theorem store_temp (setting : Persisted) (retVal : Nat) :
    (world.store (Settings.savePage setting) retVal).temp = world.temp := by
  cases setting <;> rfl

theorem performAll_temp (ops : List MenuOp) : (world.performAll ops).temp = world.temp := by
  induction ops generalizing world with
  | nil => rfl
  | cons op rest ih => cases op <;> exact ih

theorem saveSelected_temp (other : func ≠ .menuTempSelect) (retVal : U8) :
    (saveSelected func retVal world).temp = world.temp := by
  cases func with
  | menuUnit => exact store_temp .unit _
  | menuRelay1AlarmSel => exact store_temp .relay1AlarmType _
  | menuRelay2AlarmSel => exact store_temp .relay2AlarmType _
  | menuRs485Baud => exact store_temp .commBaud _
  | menuRs485Check => exact store_temp .commParity _
  | menuBacklightSetup =>
      show (Settings.menuBacklightSetup world.device retVal.toNat).global.temp = world.temp
      unfold Settings.menuBacklightSetup
      split
      · rfl
      · exact store_temp .backlight _
  | menuRangeSelect => exact performAll_temp _
  | menuLinearCaliPoint => exact performAll_temp _
  | menuRelayTest =>
      change (menuRelayTest (.ok retVal) world.device.global).1.temp = world.temp
      unfold menuRelayTest
      dsimp only
      split <;> rfl
  | menuTempSelect => exact absurd rfl other
  | _ => rfl

theorem saveNumber_temp (stale : U16) (retVal : DecimalText.Number) :
    (saveNumber func stale retVal world).temp = world.temp := by
  cases func with
  | menuRelay1AlarmValue => exact store_temp .relay1AlarmVal _
  | menuRelay1AlarmDelay => exact store_temp .relay1AlarmDelay _
  | menuRelay2AlarmValue => exact store_temp .relay2AlarmVal _
  | menuRelay2AlarmDelay => exact store_temp .relay2AlarmDelay _
  | menuCleanInterval => exact store_temp .cleanInterval _
  | menuCleanTime => exact store_temp .cleanTime _
  | menuRs485Id => exact store_temp .commDeviceId _
  | menuTempCompensate => exact store_temp .tempCompensate _
  | menuSerialNoSetup => exact store_temp .serialNo _
  | menuPasswordSetup => exact store_temp .password _
  | menuRangeSetup => exact performAll_temp _
  | menuZeroCompensate => exact performAll_temp _
  | _ => rfl

theorem prepared_temp : (prepared func world).temp = world.temp := by
  unfold prepared
  split
  · exact performAll_temp [.assign _]
  · rfl

end Unassigned

section Turns

variable {clib : Clib} {station after : Station} {input : TurnInput}

theorem shown_active : station.shown.menu.active = station.menu.active := by
  unfold Station.shown
  split <;> rfl

theorem displays_iff : station.Displays ↔ station.menu.active = some .menuMainDisp ∨
    station.menu.active = some .menuDisplayZhuoduXiguangdu := by
  unfold Station.Displays
  cases station.menu.active with
  | none => exact ⟨nofun, fun either => either.elim nofun nofun⟩
  | some func => cases func <;> simp [showsZhuodu]

theorem displayed_global (called : station.Displays)
    (turned : turn clib station.shown input = some after) :
    after.world = menuDisplayZhuoduXiguangdu station.world := by
  have same : station.shown.world = menuDisplayZhuoduXiguangdu station.world := by
    rw [Station.shown, if_pos called]
  rw [← same]
  rcases displays_iff.mp called with root | page
  · refine turn_world (shown_active.trans root) ?_ turned
    rcases menuMainDisp_cases (turnPass clib station.shown input .menuMainDisp)
      station.shown.menu.statics with result | result | result
    · exact congrArg PageResult.reset result
    · exact congrArg PageResult.reset result
    · exact congrArg PageResult.reset result
  · exact turn_world (shown_active.trans page) rfl turned

theorem displayed_iff (called : station.Displays)
    (turned : turn clib station.shown input = some after) :
    TempCompensated after.world.device.global ↔
      (station.world.device.global.tempSelect = 0 → SumFits station.world.device.global →
        station.world.device.global.tempCompensate = 0) := by
  rw [displayed_global called turned]
  have measured (automatic : station.world.device.global.tempSelect = 0) :
      (menuDisplayZhuoduXiguangdu station.world).temp = station.world.zhuodu.readHalf .temp :=
    if_pos automatic
  constructor
  · intro compensated automatic fits
    have temp := compensated.automatic automatic fits
    exact toInt_eq_sum_iff.mp ((congrArg BitVec.toInt (measured automatic)).symm.trans temp)
  · intro uncompensated
    constructor
    · intro automatic fits
      have sum := toInt_eq_sum_iff.mpr (uncompensated automatic fits)
      exact (congrArg BitVec.toInt (measured automatic)).trans sum
    · intro manual
      have other : ¬ station.world.device.global.tempSelect = 0 := by
        rw [show station.world.device.global.tempSelect = 1 from manual]
        decide
      exact congrArg BitVec.toInt (if_neg other)

theorem selected_world {retVal : Nat} (called : station.menu.active = some .menuTempSelect)
    (chosen : chosenMode station input = .ok retVal)
    (turned : turn clib station.shown input = some after) :
    after.world = menuTempSelect (BitVec.ofNat 8 retVal) station.world := by
  have same : station.shown = station := by
    apply if_neg
    rw [Station.Displays, called]
    exact Bool.false_ne_true
  rw [same] at turned
  rw [turn_world called rfl turned]
  show afterSelect .menuTempSelect (chosenMode station input) station.world = _
  rw [chosen]
  rfl

theorem selected_compensated {retVal : U8} {world : PageWorld}
    (other : retVal ≠ world.device.global.tempSelect) :
    TempCompensated (menuTempSelect retVal world).device.global := by
  unfold menuTempSelect
  rw [if_neg other]
  constructor
  · intro automatic fits
    have off : retVal ≠ 1 := by
      rw [show retVal = 0 from automatic]
      decide
    exact (congrArg BitVec.toInt (if_neg off)).trans (toInt_sum fits)
  · intro manual
    exact congrArg BitVec.toInt (if_pos manual)

theorem afterSelect_temp {func : PageFunc} {world : PageWorld}
    {setStat : Menu.Edit.SetStat Nat}
    (kept : func = .menuTempSelect → ∀ retVal, setStat = .ok retVal →
      BitVec.ofNat 8 retVal = world.device.global.tempSelect) :
    (afterSelect func setStat world).temp = world.temp := by
  cases setStat with
  | ok retVal =>
      by_cases mode : func = .menuTempSelect
      · have same := kept mode retVal rfl
        cases mode
        exact congrArg PageWorld.temp (if_pos same)
      · exact saveSelected_temp mode _
  | exit =>
      unfold afterSelect
      dsimp only
      split <;> rfl
  | ing => rfl
  | maxMinError => rfl

theorem afterNumber_temp {func : PageFunc} {world : PageWorld} {stale : U16}
    {setStat : Menu.Edit.SetStat DecimalText.Number} :
    (afterNumber func stale setStat world).temp = world.temp := by
  cases setStat with
  | ok retVal => exact saveNumber_temp stale retVal
  | _ => rfl

theorem pageWrites_temp {func : PageFunc} (called : station.menu.active = some func)
    (unassigned : ¬ AssignsTemp station input) :
    (pageWrites clib station input func).temp = station.world.temp := by
  have start : (prepared func station.world).temp = station.world.temp := prepared_temp
  apply Eq.trans _ start
  unfold pageWrites
  dsimp only
  split
  · next args body =>
      apply afterSelect_temp
      intro mode retVal chosen
      cases mode
      cases body
      apply Decidable.not_not.mp
      intro other
      exact unassigned (.select called chosen other)
  · exact afterNumber_temp
  · split
    · exact performAll_temp _
    · rfl
  · rfl

/-- The other calls leave the temperature as it was, but for a restart. -/
theorem turn_temp (unassigned : ¬ AssignsTemp station input)
    (turned : turn clib station.shown input = some after) :
    after.world.temp = station.world.temp ∨ ∃ image, after = boot image := by
  have same : station.shown = station := if_neg fun called => unassigned (.display called)
  rw [same] at turned
  cases called : station.menu.active with
  | none => exact .inl (congrArg PageWorld.temp (turn_list called turned).1)
  | some func =>
      cases reset : (runPage (turnPass clib station input func) station.menu.statics
          (pageBody func)).reset with
      | false =>
          rw [turn_world called reset turned]
          exact .inl (pageWrites_temp called unassigned)
      | true =>
          unfold turn at turned
          rw [called] at turned
          dsimp only at turned
          rw [if_pos reset] at turned
          exact .inr ⟨_, (Option.some.inj turned).symm⟩

end Turns

/-- Every assigned temperature is compensated exactly if the display never runs in automatic
mode while there is a compensation. -/
theorem temp_compensated_iff (clib : Clib) (station : Station) (events : List StationEvent) :
    Run.AllSteps (tempStep clib) Compensates station events ↔
      Run.AllSteps (tempStep clib) ShownUncompensated station events := by
  have agree (before : Station) (event : StationEvent) (after : Station)
      (stepped : tempStep clib before event = some after) :
      Compensates before event after ↔ ShownUncompensated before event after := by
    cases event with
    | deliver delivery => exact Iff.rfl
    | turn input =>
        constructor
        · intro compensated called
          exact (displayed_iff called stepped).mp (compensated.1 (.display called))
        · intro uncompensated
          refine ⟨fun assigns => ?_, fun unassigned => turn_temp unassigned stepped⟩
          cases assigns with
          | display called => exact (displayed_iff called stepped).mpr (uncompensated called)
          | select called chosen other =>
              rw [selected_world called chosen stepped]
              exact selected_compensated other
  constructor
  · apply Run.AllSteps.mono
    exact fun before event after stepped => (agree before event after stepped).mp
  · apply Run.AllSteps.mono
    exact fun before event after stepped => (agree before event after stepped).mpr

section Instance

open ZhuoduControl.Menu.Box (plainClib)

/-- The keys from the page of the root to node 0.0.6.1, where `01000` is saved. -/
def compensateKeys : List StationEvent :=
  [.downOk, .downOk, .downDown, .downDown, .downDown, .downDown, .downDown, .downDown, .downOk,
    .downDown, .downOk, .downOk, .downUp, .downMenu, .downMenu].map press

/-- The keys from there back to the page of the root. -/
def homeKeys : List StationEvent := [.downMenu, .downMenu, .downMenu].map press

theorem temp_shown_uncompensated :
    ¬ ∀ (clib : Clib) (image : Memory U8) (events : List StationEvent),
      Run.AllSteps (tempStep clib) Compensates (boot image) events := by
  intro always
  have found : (Run.run (tempStep plainClib) (boot cFactorySetting)
      (compensateKeys ++ homeKeys)).map (fun station => (station.menu.active,
        station.world.device.global.tempSelect, station.world.device.global.tempCompensate,
        station.world.zhuodu.readHalf .temp)) =
      some (some .menuMainDisp, 0, 1000, 250) := by
    decide +kernel
  have goes_on : (Run.run (tempStep plainClib) (boot cFactorySetting)
      (compensateKeys ++ homeKeys ++ [press .none])).isSome = true := by
    decide +kernel
  obtain ⟨after, ended⟩ := Option.isSome_iff_exists.mp goes_on
  obtain ⟨before, began, stepped⟩ := Run.run_concat_some ended
  rw [began] at found
  obtain ⟨active, settings⟩ := Prod.mk.inj (Option.some.inj found)
  obtain ⟨tempSelect, sums⟩ := Prod.mk.inj settings
  obtain ⟨tempCompensate, measured⟩ := Prod.mk.inj sums
  have displays : before.Displays := displays_iff.mpr (.inl active)
  have sum : compensatedTemp before.world.device.global = 1250 :=
    congr (congrArg (fun left right => left + right) (congrArg BitVec.toInt measured))
      (congrArg BitVec.toInt tempCompensate)
  have fits : SumFits before.world.device.global := by
    rw [SumFits, sum]
    decide
  have compensated := ((always plainClib cFactorySetting _).last began stepped).1 (.display displays)
  have none_set := (displayed_iff displays stepped).mp compensated tempSelect fits
  rw [tempCompensate] at none_set
  exact absurd none_set (by decide)

end Instance

end ZhuoduControl.System
