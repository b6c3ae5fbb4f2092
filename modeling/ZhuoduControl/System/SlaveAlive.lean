import ZhuoduControl.Drivers.SerialDevice
import ZhuoduControl.Library.Run
import ZhuoduControl.Settings.BootConfiguration
import ZhuoduControl.Settings.SavedSettings

/-! The pages that change the communication settings while the slave stack runs. -/

set_option autoImplicit false

namespace ZhuoduControl.System

open ZhuoduControl.Library
open ZhuoduControl.Data
open ZhuoduControl.Drivers (SerialDevice portOflag serial3 serial3_shared)
open ZhuoduControl.Modbus
open ZhuoduControl.Settings

inductive CommPage
  | baud
  | check
  | id
deriving DecidableEq, Repr

def CommPage.page : CommPage → Page
  | baud => .rs485Baud
  | check => .rs485Check
  | id => .rs485Id

/-- `port` is `serial3`. -/
structure CommState where
  device : Device
  stack : SlaveStack
  port : SerialDevice

/-- `eMBInit` comes to `xMBPortSerialInit`. -/
def reachesPort (global : GlobalDef) : Prop :=
  global.commFormat = mbRtu ∧ mbAddressMin ≤ global.commDeviceId.toNat ∧
    global.commDeviceId.toNat ≤ mbAddressMax

instance (global : GlobalDef) : Decidable (reachesPort global) :=
  inferInstanceAs (Decidable (_ ∧ _ ∧ _))

/-- Whether the port opens, if it is reached. `none` is an assertion that fails. -/
def openPort (room : Bool) (global : GlobalDef) (port : SerialDevice) :
    Option (Bool × SerialDevice) :=
  if reachesPort global then
    (port.rtDeviceOpen room portOflag).map fun (result, port) => (result = .eok, port)
  else some (false, port)

/-- The case `SET_OK` of the three pages: the save, then `eMBInit` alone. -/
def commSave (page : CommPage) (retVal : Nat) (room : Bool) (stale : U32) (state : CommState) :
    Option CommState :=
  let device := page.page.run state.device retVal
  (openPort room device.global state.port).map fun (opened, port) =>
    ⟨device, (initSlave opened stale device.global state.stack).2, port⟩

/-- `modbus_s_thread_entry` up to its loop, over a port that nothing has opened. -/
def startSlave (room : Bool) (stale : U32) (device : Device) (booting : SlaveStack) :
    Option CommState :=
  (openPort room device.global serial3).map fun (opened, port) =>
    ⟨device, modbusSThreadEntry opened stale device.global booting, port⟩

/-- `room` is whether `rt_malloc` finds memory, `stale` what the local `baud` holds, and
`ucRcvAddress` the address of a frame that a poll takes. -/
inductive CommEvent
  | save (page : CommPage) (retVal : Nat) (room : Bool) (stale : U32)
  | poll (ucRcvAddress : Option U8)

/-- The editor of a page returns only what the page accepts. -/
def commStep (state : CommState) : CommEvent → Option CommState
  | .save page retVal room stale =>
      if page.page.Accepts retVal then commSave page retVal room stale state else none
  | .poll ucRcvAddress => some { state with stack := state.stack.polled ucRcvAddress }

/-- `modbus_s_thread_entry` has enabled the stack with the settings of a start. -/
structure Started (state : CommState) : Prop where
  booted : ∃ before room stale booting, booting.eMBState = .notInitialized ∧
    startSlave room stale (globalInit before) booting = some state
  enabled : state.stack.eMBState = .enabled

def assignedParity (commParity : U8) : Option Parity :=
  match commParity.toNat with
  | 0 => some .none
  | 1 => some .odd
  | 2 => some .even
  | _ => none

/-- What a restart with the saved settings would make of the stack, but for the last
frame received. -/
def SameAsRestarted (state : CommState) : Prop :=
  ∀ room stale booting restarted, booting.eMBState = .notInitialized →
    startSlave room stale (powerOn state.device.fram) booting = some restarted →
      state.stack = { restarted.stack with ucRcvAddress := state.stack.ucRcvAddress }

structure Alive (state : CommState) : Prop where
  enabled : state.stack.eMBState = .enabled
  address : state.stack.ucMBAddress = state.device.global.commDeviceId
  baud : assignedBaud state.device.global.commBaud = some state.stack.serial.baudRate
  parity : assignedParity state.device.global.commParity = some state.stack.serial.parity
  restarted : SameAsRestarted state

def AliveAfterSave (_before : CommState) : CommEvent → CommState → Prop
  | .save .., after => Alive after
  | .poll _, _ => True

/-- The step completes no save. -/
def NoSave (_before : CommState) : CommEvent → CommState → Prop
  | .save .., _ => False
  | .poll _, _ => True

/-- Settings the slave stack can be initialised with. -/
structure Serviceable (global : GlobalDef) : Prop where
  format : global.commFormat = mbRtu
  lower : mbAddressMin ≤ global.commDeviceId.toNat
  upper : global.commDeviceId.toNat ≤ mbAddressMax
  baud : global.commBaud.toNat ≤ 5
  parity : global.commParity.toNat ≤ 2

/-- The stack was last initialised with these settings. -/
structure Configured (global : GlobalDef) (stack : SlaveStack) : Prop where
  mode : stack.eMBCurrentMode = mbRtu
  address : stack.ucMBAddress = global.commDeviceId
  serial : ∀ stale config,
    stack.serial = SerialConfig.configure config (selectBaud stale global.commBaud)
      global.commParity

theorem eMBEnable_configured {global : GlobalDef} {stack : SlaveStack} (configured : Configured global stack)
    (disabled : stack.eMBState = .disabled) :
    Configured global (eMBEnable stack).2 ∧ (eMBEnable stack).2.eMBState = .enabled := by
  unfold eMBEnable
  rw [disabled]
  exact ⟨⟨configured.mode, configured.address, configured.serial⟩, rfl⟩

section Initialise

variable {global : GlobalDef} (serviceable : Serviceable global)

include serviceable

theorem selectBaud_known (stale other : U32) :
    selectBaud stale global.commBaud = selectBaud other global.commBaud := by
  obtain ⟨baud, assigned⟩ := Option.isSome_iff_exists.mp (assignedBaud_isSome serviceable.baud)
  unfold selectBaud
  rw [assigned]
  rfl

theorem initSlave_eq (stale : U32) (stack : SlaveStack) :
    (initSlave true stale global stack).2 =
      { stack with
        ucMBAddress := global.commDeviceId
        serial := stack.serial.configure (selectBaud stale global.commBaud) global.commParity
        eMBCurrentMode := mbRtu
        eMBState := .disabled } := by
  unfold initSlave
  rw [serviceable.format, eMBInit_rtu serviceable.lower serviceable.upper]
  rfl

theorem configure_same (stale other : U32) (first second : SerialConfig) :
    first.configure (selectBaud stale global.commBaud) global.commParity =
      second.configure (selectBaud other global.commBaud) global.commParity := by
  rw [selectBaud_known serviceable stale other]
  exact SerialConfig.configure_known serviceable.parity

/-- `eMBInit` over a port that opens leaves the stack disabled. -/
theorem initSlave_configured (stale : U32) (stack : SlaveStack) :
    Configured global (initSlave true stale global stack).2 ∧
      (initSlave true stale global stack).2.eMBState = .disabled := by
  rw [initSlave_eq serviceable]
  exact ⟨⟨rfl, rfl, fun other config => configure_same serviceable _ other _ config⟩, rfl⟩

theorem openPort_shared {room opened : Bool} {port after : SerialDevice}
    (shared : port.Shared portOflag) (tried : openPort room global port = some (opened, after)) :
    opened = true ∧ after.Shared portOflag := by
  have reaches : reachesPort global :=
    ⟨serviceable.format, serviceable.lower, serviceable.upper⟩
  unfold openPort at tried
  rw [if_pos reaches] at tried
  obtain ⟨⟨result, left⟩, answered, same⟩ := Option.map_eq_some_iff.mp tried
  obtain ⟨rfl, kept⟩ := SerialDevice.rtDeviceOpen_shared shared answered
  cases same
  exact ⟨rfl, kept⟩

theorem startSlave_configured {room : Bool} {stale : U32} {device : Device}
    {booting : SlaveStack} {state : CommState} (own : device.global = global)
    (started : startSlave room stale device booting = some state) :
    Configured global state.stack ∧ state.stack.eMBState = .enabled := by
  subst own
  obtain ⟨⟨opened, port⟩, tried, same⟩ := Option.map_eq_some_iff.mp started
  obtain ⟨rfl, _⟩ := openPort_shared serviceable serial3_shared tried
  obtain ⟨configured, disabled⟩ := initSlave_configured serviceable stale booting
  cases same
  exact eMBEnable_configured configured disabled

end Initialise

theorem Configured.unique {global : GlobalDef} {first second : SlaveStack}
    (firstConfigured : Configured global first) (secondConfigured : Configured global second)
    (states : first.eMBState = second.eMBState) :
    first = { second with ucRcvAddress := first.ucRcvAddress } := by
  have modes := firstConfigured.mode.trans secondConfigured.mode.symm
  have addresses := firstConfigured.address.trans secondConfigured.address.symm
  have serials := (firstConfigured.serial 0 first.serial).trans
    (secondConfigured.serial 0 first.serial).symm
  cases first
  cases second
  cases modes
  cases addresses
  cases serials
  cases states
  rfl

theorem assignedBaud_selectBaud {commBaud : U8} (known : commBaud.toNat ≤ 5) (stale : U32) :
    assignedBaud commBaud = some (selectBaud stale commBaud) := by
  obtain ⟨baud, assigned⟩ := Option.isSome_iff_exists.mp (assignedBaud_isSome known)
  unfold selectBaud
  rw [assigned]
  rfl

theorem configure_baudRate (config : SerialConfig) (ulBaudRate : U32) (eParity : U8) :
    (config.configure ulBaudRate eParity).baudRate = ulBaudRate := by
  unfold SerialConfig.configure
  split
  · rfl
  split
  · rfl
  split
  · rfl
  · rfl

theorem configure_parity (config : SerialConfig) (ulBaudRate : U32) {eParity : U8}
    (known : eParity.toNat ≤ 2) :
    assignedParity eParity = some (config.configure ulBaudRate eParity).parity := by
  have index : eParity.toNat = 0 ∨ eParity.toNat = 1 ∨ eParity.toNat = 2 := by omega
  rcases index with zero | one | two
  · obtain rfl : eParity = 0 := BitVec.eq_of_toNat_eq zero
    rfl
  · obtain rfl : eParity = 1 := BitVec.eq_of_toNat_eq one
    rfl
  · obtain rfl : eParity = 2 := BitVec.eq_of_toNat_eq two
    rfl

/-- What every step keeps. -/
structure Answering (state : CommState) : Prop where
  backed : Backed state.device
  serviceable : Serviceable state.device.global
  port : state.port.Shared portOflag

theorem powerOn_serviceable {device : Device} (backed : Backed device)
    (serviceable : Serviceable device.global) : Serviceable (powerOn device.fram).global := by
  have format := backed.powerOn_read (show Persisted.commFormat ∈ _ by decide)
  have deviceId := backed.powerOn_read (show Persisted.commDeviceId ∈ _ by decide)
  have baud := backed.powerOn_read (show Persisted.commBaud ∈ _ by decide)
  have parity := backed.powerOn_read (show Persisted.commParity ∈ _ by decide)
  simp only [Persisted.read] at format deviceId baud parity
  obtain ⟨rtu, lower, upper, knownBaud, knownParity⟩ := serviceable
  rw [← deviceId] at lower upper
  rw [← baud] at knownBaud
  rw [← parity] at knownParity
  exact ⟨(BitVec.eq_of_toNat_eq format).trans rtu, lower, upper, knownBaud, knownParity⟩

theorem Configured.powerOn {device : Device} (backed : Backed device) {stack : SlaveStack}
    (configured : Configured (powerOn device.fram).global stack) :
    Configured device.global stack := by
  have deviceId := backed.powerOn_read (show Persisted.commDeviceId ∈ _ by decide)
  have baud := backed.powerOn_read (show Persisted.commBaud ∈ _ by decide)
  have parity := backed.powerOn_read (show Persisted.commParity ∈ _ by decide)
  obtain ⟨mode, address, serial⟩ := configured
  rw [BitVec.eq_of_toNat_eq baud, BitVec.eq_of_toNat_eq parity] at serial
  exact ⟨mode, address.trans (BitVec.eq_of_toNat_eq deviceId), serial⟩

/-- A stack that is enabled with the settings is as after a restart. -/
theorem Answering.alive {state : CommState} (answering : Answering state)
    (configured : Configured state.device.global state.stack)
    (enabled : state.stack.eMBState = .enabled) : Alive state := by
  obtain ⟨backed, serviceable, _⟩ := answering
  have serial := configured.serial 0 state.stack.serial
  refine ⟨enabled, configured.address, ?_, ?_, ?_⟩
  · rw [serial, configure_baudRate]
    exact assignedBaud_selectBaud serviceable.baud 0
  · rw [serial]
    exact configure_parity _ _ serviceable.parity
  · intro room stale booting restarted _ started
    obtain ⟨again, running⟩ :=
      startSlave_configured (powerOn_serviceable backed serviceable) rfl started
    exact configured.unique (Configured.powerOn backed again) (enabled.trans running.symm)

section Save

variable {page : Page} {retVal : Nat} (accepted : page.Accepts retVal) {device : Device}

include accepted

theorem accepted_passes {load : Load} (member : load ∈ loads)
    (same : load.setting = page.setting) : load.Passes retVal := by
  have passes := Load.repaired_passes (loads_sound load member) retVal
  rw [Page.accepts_unrepaired accepted member same] at passes
  exact passes

theorem savePage_backed (backed : Backed device) :
    Backed (savePage page.setting device retVal) := by
  have fits := Page.accepts_fits accepted
  have bytes := fun field different =>
    @savePage_bytes_other page.setting device retVal field different
  have other : ∀ load ∈ loads, load.setting ≠ page.setting →
      load.setting.field.stored (savePage page.setting device retVal).fram =
        load.setting.field.stored device.fram := by
    intro load member different
    have same := bytes load.setting.field fun same => different (Persisted.field_injective same)
    rw [E2PField.stored, same, E2PField.stored]
  refine ⟨?_, ?_, ?_⟩
  · exact finished_of_bytes (bytes .eeprom page.setting.field_ne_eeprom.symm) backed.finished
  · intro load member
    by_cases own : load.setting = page.setting
    · rw [own, savePage_stored page.setting device fits]
      exact accepted_passes accepted member own
    · rw [other load member own]
      exact backed.passes load member
  · intro load member
    by_cases own : load.setting = page.setting
    · rw [own, savePage_read page.setting device fits, savePage_stored page.setting device fits]
    · rw [other load member own, ← backed.loaded load member]
      exact Persisted.read_assign_other own _ _

end Save

theorem CommPage.run_eq (page : CommPage) (device : Device) (retVal : Nat) :
    page.page.run device retVal = savePage page.page.setting device retVal := by
  cases page with
  | baud => rfl
  | check => rfl
  | id => rfl

/-- The checks a start has made hold of what the pages save. -/
theorem Backed.serviceable {device : Device} (backed : Backed device)
    (format : device.global.commFormat = mbRtu) (deviceId : device.global.commDeviceId.toNat ≠ 0) :
    Serviceable device.global := by
  have within : ∀ setting greatest replacement, ⟨setting, some (greatest, replacement)⟩ ∈ loads →
      setting.read device.global ≤ greatest := by
    intro setting greatest replacement member
    rw [backed.loaded _ member]
    exact backed.passes _ member greatest replacement rfl
  exact ⟨format, Nat.pos_of_ne_zero deviceId, within .commDeviceId 247 1 (by decide),
    within .commBaud 5 3 (by decide), within .commParity 2 0 (by decide)⟩

theorem run_serviceable {page : CommPage} {retVal : Nat} {device : Device}
    (accepted : page.page.Accepts retVal) (backed : Backed device)
    (serviceable : Serviceable device.global) :
    Backed (page.page.run device retVal) ∧ Serviceable (page.page.run device retVal).global := by
  have saved := savePage_backed accepted backed
  have format : (savePage page.page.setting device retVal).global.commFormat = mbRtu := by
    cases page <;> exact serviceable.format
  have deviceId : (savePage page.page.setting device retVal).global.commDeviceId.toNat ≠ 0 := by
    cases page with
    | baud => exact Nat.ne_of_gt serviceable.lower
    | check => exact Nat.ne_of_gt serviceable.lower
    | id =>
        have read := savePage_read .commDeviceId device (Page.accepts_fits accepted)
        obtain ⟨range, member, lower, _⟩ := accepted
        cases List.mem_singleton.mp member
        exact fun zero => absurd (read.symm.trans zero) (Nat.ne_of_gt lower)
  rw [page.run_eq]
  exact ⟨saved, Backed.serviceable saved format deviceId⟩

theorem initSlave_of_enabled {opened : Bool} {stale : U32} {global : GlobalDef}
    {booting : SlaveStack} (fresh : booting.eMBState = .notInitialized)
    (enabled : (modbusSThreadEntry opened stale global booting).eMBState = .enabled) :
    (initSlave opened stale global booting).1 = .enoerr := by
  rcases eMBInit_state with initialised | unchanged
  · exact initialised
  · have stuck : (initSlave opened stale global booting).2.eMBState = .notInitialized :=
      unchanged.trans fresh
    unfold modbusSThreadEntry eMBEnable at enabled
    rw [stuck] at enabled
    cases stuck.symm.trans enabled

theorem Started.answering {state : CommState} (started : Started state) : Answering state := by
  obtain ⟨⟨before, room, stale, booting, fresh, entered⟩, enabled⟩ := started
  obtain ⟨⟨opened, port⟩, tried, same⟩ := Option.map_eq_some_iff.mp entered
  cases same
  have backed := globalInit_backed before
  have initialised := initSlave_of_enabled fresh enabled
  obtain ⟨_, format, lower, _⟩ := eMBInit_enoerr_iff.mp initialised
  have serviceable := Backed.serviceable backed format (Nat.ne_of_gt lower)
  exact ⟨backed, serviceable, (openPort_shared serviceable serial3_shared tried).2⟩

/-- A completed save has set the stack up with the new settings and left it disabled. -/
theorem Answering.save {page : CommPage} {retVal : Nat} {room : Bool} {stale : U32}
    {state next : CommState} (answering : Answering state) (accepted : page.page.Accepts retVal)
    (saved : commSave page retVal room stale state = some next) :
    Answering next ∧ Configured next.device.global next.stack ∧ next.stack.eMBState = .disabled := by
  obtain ⟨backed, serviceable⟩ := run_serviceable accepted answering.backed answering.serviceable
  obtain ⟨⟨opened, port⟩, tried, same⟩ := Option.map_eq_some_iff.mp saved
  obtain ⟨rfl, shared⟩ := openPort_shared serviceable answering.port tried
  cases same
  exact ⟨⟨backed, serviceable, shared⟩, initSlave_configured serviceable stale state.stack⟩

/-- All that a save leaves out is the `eMBEnable` of `modbus_s_thread_entry`. -/
theorem Answering.save_enabled {page : CommPage} {retVal : Nat} {room : Bool} {stale : U32}
    {state next : CommState} (answering : Answering state) (accepted : page.page.Accepts retVal)
    (saved : commSave page retVal room stale state = some next) :
    Alive { next with stack := (eMBEnable next.stack).2 } := by
  obtain ⟨kept, configured, disabled⟩ := answering.save accepted saved
  obtain ⟨same, enabled⟩ := eMBEnable_configured configured disabled
  have running : Answering { next with stack := (eMBEnable next.stack).2 } :=
    ⟨kept.backed, kept.serviceable, kept.port⟩
  exact running.alive same enabled

theorem commStep_save {page : CommPage} {retVal : Nat} {room : Bool} {stale : U32}
    {state next : CommState} (stepped : commStep state (.save page retVal room stale) = some next) :
    page.page.Accepts retVal ∧ commSave page retVal room stale state = some next := by
  simp only [commStep] at stepped
  split at stepped
  · next accepted => exact ⟨accepted, stepped⟩
  · cases stepped

theorem answering_preserved {state next : CommState} {event : CommEvent} (answering : Answering state)
    (stepped : commStep state event = some next) : Answering next := by
  cases event with
  | save page retVal room stale =>
      obtain ⟨accepted, saved⟩ := commStep_save stepped
      exact (answering.save accepted saved).1
  | poll ucRcvAddress =>
      cases Option.some.inj stepped
      exact ⟨answering.backed, answering.serviceable, answering.port⟩

/-- The slave stays alive exactly as long as no save is completed. -/
theorem slaveAlive_iff {start : CommState} (started : Started start) (events : List CommEvent) :
    Run.AllSteps commStep AliveAfterSave start events ↔
      Run.AllSteps commStep NoSave start events := by
  refine Run.allSteps_iff_of_invariant ?_ ?_ events started.answering
  · intro state event next answering stepped
    exact answering_preserved answering stepped
  · intro state event next answering stepped
    cases event with
    | save page retVal room stale =>
        obtain ⟨accepted, saved⟩ := commStep_save stepped
        refine iff_of_false ?_ not_false
        intro alive
        cases (answering.save accepted saved).2.2.symm.trans alive.enabled
    | poll _ => exact Iff.rfl

def bootStack : SlaveStack := ⟨0, 0, .notInitialized, ⟨115200, 8, .none⟩, 0⟩

/-- The slave of a unit with its factory setting. -/
def factoryStart : CommState :=
  (startSlave true 0 (powerOn cFactorySetting) bootStack).getD ⟨powerOn cFactorySetting, bootStack,
    serial3⟩

theorem factoryStart_started : Started factoryStart where
  booted := by
    refine ⟨⟨cFactorySetting, GlobalDef.cleared⟩, true, 0, bootStack, rfl, ?_⟩
    have opens : (startSlave true 0 (powerOn cFactorySetting) bootStack).isSome = true := by
      decide +kernel
    obtain ⟨state, started⟩ := Option.isSome_iff_exists.mp opens
    have same : factoryStart = state := by
      rw [factoryStart, started]
      rfl
    rw [same]
    exact started
  enabled := by decide +kernel

def idPolled : List CommEvent :=
  [.poll none, .poll (some 1), .save .id 7 true 0, .poll (some 7)]

theorem slaveAlive_iff_idPolled :
    Started factoryStart ∧
      (Run.AllSteps commStep AliveAfterSave factoryStart idPolled ↔
        Run.AllSteps commStep NoSave factoryStart idPolled) :=
  ⟨factoryStart_started, slaveAlive_iff factoryStart_started idPolled⟩

/-- The new address is saved and taken over, and the slave no longer polls. -/
theorem slave_disabled_by_save :
    ¬ ∀ start, Started start → ∀ events, Run.AllSteps commStep AliveAfterSave start events := by
  intro always
  have steps := always factoryStart factoryStart_started [.save .id 7 true 0]
  have saved : (commStep factoryStart (.save .id 7 true 0)).map (fun state =>
      state.stack.eMBState) = some .disabled := by
    decide +kernel
  obtain ⟨next, stepped, disabled⟩ := Option.map_eq_some_iff.mp saved
  have alive : Alive next := (steps next stepped).1
  cases disabled.symm.trans alive.enabled

end ZhuoduControl.System
