import ZhuoduControl.Library.Binary32
import ZhuoduControl.Library.Run
import ZhuoduControl.Menu.Editors
import ZhuoduControl.Settings.BootConfiguration

/-! The writers of the relay outputs: the relay test page, the alarms that the key
thread evaluates and the callbacks of the cleaning timers. -/

set_option autoImplicit false

namespace ZhuoduControl.System

open ZhuoduControl.Library
open ZhuoduControl.Data
open ZhuoduControl.Menu.Edit (SetStat)
open ZhuoduControl.Settings

/-- A call `rt_pin_write`; `true` is `PIN_HIGH`. -/
abbrev PinWrite := Nat × Bool

/-- Type 0 executes the alarm below the band and cancels it above, type 1 the other way
round. -/
def alarmLevel (alarmType : U8) (below above : Bool) : Option Bool :=
  if alarmType = 0 then
    if below then some true else if above then some false else none
  else if alarmType = 1 then
    if above then some true else if below then some false else none
  else none

/-- One of the two alarms; it writes nothing inside the band. -/
def relayAlarm (pin : Nat) (alarmType : U8) (turbidimeter alarmVal alarmDelay : U32) :
    List PinWrite :=
  let below := Binary32.lt turbidimeter (Binary32.sub alarmVal alarmDelay)
  let above := Binary32.lt (Binary32.add alarmVal alarmDelay) turbidimeter
  match alarmLevel alarmType below above with
  | some level => [(pin, level)]
  | none => []

def zhuoduAlarm (global : GlobalDef) : List PinWrite :=
  relayAlarm 33 global.relay1AlarmType (global.zhuoduData.readFloat .turbidimeter)
      global.relay1AlarmVal global.relay1AlarmDelay ++
    relayAlarm 34 global.relay2AlarmType (global.zhuoduData.readFloat .turbidimeter)
      global.relay2AlarmVal global.relay2AlarmDelay

/-- The pin of the callbacks; the timers they start and stop are not looked at here. -/
def timeout1 : List PinWrite := [(36, true)]
def timeout2 : List PinWrite := [(36, false)]

def relayPins : List Nat := [33, 34, 36]

def writeRelays (level : Bool) : List PinWrite := relayPins.map fun pin => (pin, level)

/-- What the page does once its editor has returned. -/
def menuRelayTest (setStat : SetStat U8) (global : GlobalDef) : GlobalDef × List PinWrite :=
  match setStat with
  | .ok retVal =>
      if retVal = 1 then ({ global with isRelayTest := 1 }, writeRelays true)
      else ({ global with isRelayTest := 0 }, writeRelays false)
  | .exit => ({ global with isRelayTest := 0 }, writeRelays false)
  | _ => (global, [])

structure RelayState where
  global : GlobalDef
  pins : Memory Bool

inductive RelayEvent
  | menuRelayTest (setStat : SetStat U8)
  | zhuoduAlarm
  | timeout1
  | timeout2
  /-- any other assignment to `global` -/
  | assigned (global : GlobalDef)

/-- The pins a step writes. -/
def RelayEvent.writes (state : RelayState) : RelayEvent → List PinWrite
  | menuRelayTest setStat => (System.menuRelayTest setStat state.global).2
  | zhuoduAlarm => System.zhuoduAlarm state.global
  | timeout1 => System.timeout1
  | timeout2 => System.timeout2
  | assigned _ => []

def RelayEvent.global (state : RelayState) : RelayEvent → GlobalDef
  | menuRelayTest setStat => (System.menuRelayTest setStat state.global).1
  | assigned global => { global with isRelayTest := state.global.isRelayTest }
  | _ => state.global

def relayStep (state : RelayState) (event : RelayEvent) : Option RelayState :=
  some ⟨event.global state, state.pins.setAll (event.writes state)⟩

def RelayState.testing (state : RelayState) : Prop := state.global.isRelayTest = 1

def AllHigh (state : RelayState) : Prop := ∀ pin ∈ relayPins, state.pins pin = true

/-- The step of another writer. -/
def RelayEvent.Foreign : RelayEvent → Prop
  | menuRelayTest .. => False
  | _ => True

structure TestOwnsRelays (before : RelayState) (event : RelayEvent) (after : RelayState) :
    Prop where
  allHigh : after.testing → AllHigh after
  unwritten : before.testing → event.Foreign →
    ∀ write ∈ event.writes before, write.1 ∉ relayPins

/-- The reading lies in the band of the alarm, or its type is none of the two. -/
def InBand (alarmType : U8) (turbidimeter alarmVal alarmDelay : U32) : Prop :=
  (alarmType = 0 ∨ alarmType = 1) →
    Binary32.lt turbidimeter (Binary32.sub alarmVal alarmDelay) = false ∧
      Binary32.lt (Binary32.add alarmVal alarmDelay) turbidimeter = false

/-- While the test is on no cleaning timer fires and both alarms are in their bands
whenever they are evaluated. -/
def TestUndisturbed (before : RelayState) (event : RelayEvent) (_after : RelayState) : Prop :=
  before.testing →
    match event with
    | .timeout1 => False
    | .timeout2 => False
    | .zhuoduAlarm =>
        let turbidimeter := before.global.zhuoduData.readFloat .turbidimeter
        InBand before.global.relay1AlarmType turbidimeter before.global.relay1AlarmVal
            before.global.relay1AlarmDelay ∧
          InBand before.global.relay2AlarmType turbidimeter before.global.relay2AlarmVal
            before.global.relay2AlarmDelay
    | _ => True

theorem alarmLevel_none_iff (alarmType : U8) (below above : Bool) :
    alarmLevel alarmType below above = none ↔
      ((alarmType = 0 ∨ alarmType = 1) → below = false ∧ above = false) := by
  unfold alarmLevel
  by_cases zero : alarmType = 0
  · rw [if_pos zero]
    cases below <;> cases above <;> simp [zero]
  · rw [if_neg zero]
    by_cases one : alarmType = 1
    · rw [if_pos one]
      cases below <;> cases above <;> simp [one]
    · rw [if_neg one]
      exact iff_of_true rfl fun typed => typed.elim (absurd · zero) (absurd · one)

section Alarm

variable {pin : Nat} {alarmType : U8} {turbidimeter alarmVal alarmDelay : U32}

theorem relayAlarm_pin :
    ∀ write ∈ relayAlarm pin alarmType turbidimeter alarmVal alarmDelay, write.1 = pin := by
  intro write member
  unfold relayAlarm at member
  simp only at member
  split at member
  · cases List.mem_singleton.mp member
    rfl
  · cases member

theorem relayAlarm_nil_iff :
    relayAlarm pin alarmType turbidimeter alarmVal alarmDelay = [] ↔
      InBand alarmType turbidimeter alarmVal alarmDelay := by
  unfold InBand
  rw [← alarmLevel_none_iff]
  unfold relayAlarm
  simp only
  split
  · next level written =>
    rw [written]
    exact iff_of_false nofun nofun
  · next unwritten => exact iff_of_true rfl unwritten

/-- An alarm leaves the relay pins alone only when it writes nothing. -/
theorem relayAlarm_unwritten_iff (relay : pin ∈ relayPins) :
    (∀ write ∈ relayAlarm pin alarmType turbidimeter alarmVal alarmDelay,
        write.1 ∉ relayPins) ↔
      InBand alarmType turbidimeter alarmVal alarmDelay := by
  rw [← @relayAlarm_nil_iff pin]
  constructor
  · intro unwritten
    refine List.eq_nil_iff_forall_not_mem.mpr fun write member => unwritten write member ?_
    rw [relayAlarm_pin write member]
    exact relay
  · intro nothing write member
    rw [nothing] at member
    cases member

end Alarm

theorem unwritten_iff_undisturbed (state after : RelayState) (event : RelayEvent) :
    (state.testing → event.Foreign → ∀ write ∈ event.writes state, write.1 ∉ relayPins) ↔
      TestUndisturbed state event after := by
  unfold TestUndisturbed
  refine forall_congr' fun _ => ?_
  cases event with
  | menuRelayTest setStat => exact iff_of_true nofun True.intro
  | assigned global => exact iff_of_true (fun _ _ member => nomatch member) True.intro
  | timeout1 =>
      refine iff_of_false (fun unwritten => ?_) id
      exact unwritten True.intro (36, true) (.head _) (by decide)
  | timeout2 =>
      refine iff_of_false (fun unwritten => ?_) id
      exact unwritten True.intro (36, false) (.head _) (by decide)
  | zhuoduAlarm =>
      have relay1 : 33 ∈ relayPins := by decide
      have relay2 : 34 ∈ relayPins := by decide
      simp only [RelayEvent.Foreign, RelayEvent.writes, System.zhuoduAlarm, forall_const,
        List.forall_mem_append]
      exact and_congr (relayAlarm_unwritten_iff relay1) (relayAlarm_unwritten_iff relay2)

/-- A test that is on holds all its outputs. -/
def HeldWhileTesting (state : RelayState) : Prop := state.testing → AllHigh state

theorem allHigh_of_unwritten {state : RelayState} {writes : List PinWrite} (high : AllHigh state)
    (unwritten : ∀ write ∈ writes, write.1 ∉ relayPins) (global : GlobalDef) :
    AllHigh ⟨global, state.pins.setAll writes⟩ := by
  intro pin relay
  rw [← high pin relay]
  refine Memory.setAll_untouched state.pins writes ?_
  rintro write member rfl
  exact unwritten write member relay

theorem writeRelays_level (pins : Memory Bool) (level : Bool) :
    ∀ pin ∈ relayPins, pins.setAll (writeRelays level) pin = level := by
  intro pin relay
  refine Memory.setAll_agreeing pins _ (List.mem_map.mpr ⟨pin, relay, rfl⟩) ?_
  intro write member _
  obtain ⟨_, _, rfl⟩ := List.mem_map.mp member
  rfl

theorem held_preserved {state next : RelayState} {event : RelayEvent}
    (held : HeldWhileTesting state) (stepped : relayStep state event = some next)
    (undisturbed : TestUndisturbed state event next) : HeldWhileTesting next := by
  have unwritten := (unwritten_iff_undisturbed state next event).mpr undisturbed
  cases Option.some.inj stepped
  intro testing
  cases event with
  | menuRelayTest setStat =>
      unfold RelayState.testing at testing
      simp only [RelayEvent.global, RelayEvent.writes, System.menuRelayTest] at testing ⊢
      cases setStat with
      | ok retVal =>
          simp only at testing ⊢
          split at testing
          · next on =>
            rw [if_pos on]
            exact writeRelays_level state.pins true
          · cases testing
      | exit => cases testing
      | ing => exact held testing
      | maxMinError => exact held testing
  | _ =>
      have before : state.testing := testing
      exact allHigh_of_unwritten (held before) (unwritten before True.intro) _

theorem relayTest_owns_iff (fram : Memory U8) (pins : Memory Bool) (events : List RelayEvent) :
    let start : RelayState := ⟨(powerOn fram).global, pins⟩
    Run.AllSteps relayStep TestOwnsRelays start events ↔
      Run.AllSteps relayStep TestUndisturbed start events := by
  intro start
  have off : ¬ start.testing := by
    have unread := (globalInit_unread ⟨fram, GlobalDef.cleared⟩).isRelayTest
    intro on
    cases on.symm.trans unread
  constructor
  · refine Run.AllSteps.mono fun state event next _ owns => ?_
    exact (unwritten_iff_undisturbed state next event).mp owns.unwritten
  · intro undisturbed
    refine Run.allSteps_of_invariant (fun _ _ _ held stepped allowed =>
      held_preserved held stepped allowed) ?_ (fun on => absurd on off) undisturbed
    intro state event next held stepped allowed
    exact ⟨held_preserved held stepped allowed,
      (unwritten_iff_undisturbed state next event).mpr allowed⟩

/-- With the alarms as the factory sets them a reading above the band cancels both and
turns their relays off. -/
theorem relayTest_overridden_by_alarm :
    ¬ ∀ (fram : Memory U8) (pins : Memory Bool) (events : List RelayEvent),
      Run.AllSteps relayStep TestOwnsRelays ⟨(powerOn fram).global, pins⟩ events := by
  intro always
  let measured : GlobalDef :=
    { GlobalDef.cleared with
      zhuoduData := GlobalDef.cleared.zhuoduData.assign ⟨.turbidimeter, .float floatOne, rfl⟩ }
  have owns := always cFactorySetting (fun _ => false)
    [.assigned measured, .menuRelayTest (.ok 1), .zhuoduAlarm]
  have last := (((owns _ rfl).2 _ rfl).2 _ rfl).1
  have high := last.allHigh rfl 33 (by decide)
  revert high
  decide +kernel

end ZhuoduControl.System
