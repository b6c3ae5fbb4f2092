import ZhuoduControl.Modbus.HoldingCallback

/-! The Modbus slave stack: its state, the serial port it is initialised over, and the
thread that starts and polls it. -/

set_option autoImplicit false

namespace ZhuoduControl.Modbus

open ZhuoduControl.Data

/-- `eMBMode`; only the code of `MB_RTU` is compiled in. -/
def mbRtu : U8 := 0

def mbAddressBroadcast : U8 := 0
def mbAddressMin : Nat := 1
def mbAddressMax : Nat := 247

inductive MBState
  | enabled
  | disabled
  | notInitialized
deriving DecidableEq, Repr

inductive Parity
  | none
  | odd
  | even
deriving DecidableEq, Repr

structure SerialConfig where
  baudRate : U32
  dataBits : Nat
  parity : Parity
deriving DecidableEq, Repr

/-- The assignments of `xMBPortSerialInit`; a parity it does not know keeps the frame
of the port. -/
def SerialConfig.configure (config : SerialConfig) (ulBaudRate : U32) (eParity : U8) :
    SerialConfig :=
  let config := { config with baudRate := ulBaudRate }
  if eParity = 0 then { config with dataBits := 8, parity := .none }
  else if eParity = 1 then { config with dataBits := 9, parity := .odd }
  else if eParity = 2 then { config with dataBits := 9, parity := .even }
  else config

structure SlaveStack where
  ucMBAddress : U8
  eMBCurrentMode : U8
  eMBState : MBState
  serial : SerialConfig
  /-- the address of the last frame received -/
  ucRcvAddress : U8
deriving DecidableEq, Repr

/-- `opened` is what `rt_device_open` answers for the port. The timer and the event of
the port layer are always initialised. -/
def eMBInit (opened : Bool) (stack : SlaveStack) (eMode ucSlaveAddress : U8) (ulBaudRate : U32)
    (eParity : U8) : MBErrorCode × SlaveStack :=
  if ucSlaveAddress = mbAddressBroadcast ∨ ucSlaveAddress.toNat < mbAddressMin ∨
      mbAddressMax < ucSlaveAddress.toNat then
    (.einval, stack)
  else
    let stack := { stack with ucMBAddress := ucSlaveAddress }
    if eMode = mbRtu then
      let stack := { stack with serial := stack.serial.configure ulBaudRate eParity }
      if opened then
        (.enoerr, { stack with eMBCurrentMode := eMode, eMBState := .disabled })
      else
        (.eporterr, stack)
    else
      (.einval, stack)

def eMBEnable (stack : SlaveStack) : MBErrorCode × SlaveStack :=
  match stack.eMBState with
  | .disabled => (.enoerr, { stack with eMBState := .enabled })
  | _ => (.eillstate, stack)

/-- What `eMBPoll` changes of these: a running stack takes over the address of a frame whose length
and CRC are right. -/
def SlaveStack.polled (stack : SlaveStack) (ucRcvAddress : Option U8) : SlaveStack :=
  match stack.eMBState with
  | .enabled => { stack with ucRcvAddress := ucRcvAddress.getD stack.ucRcvAddress }
  | _ => stack

def assignedBaud (commBaud : U8) : Option U32 :=
  match commBaud.toNat with
  | 0 => some 1200
  | 1 => some 2400
  | 2 => some 4800
  | 3 => some 9600
  | 4 => some 19200
  | 5 => some 38400
  | _ => none

/-- The `switch` before every `eMBInit`; no case assigns the local for any other index,
which then keeps what the stack held. -/
def selectBaud (stale : U32) (commBaud : U8) : U32 :=
  (assignedBaud commBaud).getD stale

/-- The call as the thread and the pages make it. -/
def initSlave (opened : Bool) (stale : U32) (global : GlobalDef) (stack : SlaveStack) :
    MBErrorCode × SlaveStack :=
  eMBInit opened stack global.commFormat global.commDeviceId (selectBaud stale global.commBaud)
    global.commParity

/-- The start of the thread, before its loop of `eMBPoll`; both results are dropped. -/
def modbusSThreadEntry (opened : Bool) (stale : U32) (global : GlobalDef) (stack : SlaveStack) :
    SlaveStack :=
  (eMBEnable (initSlave opened stale global stack).2).2

section Init

variable {opened : Bool} {stack : SlaveStack} {eMode ucSlaveAddress eParity : U8}
variable {ulBaudRate : U32}

theorem eMBInit_enoerr_iff :
    (eMBInit opened stack eMode ucSlaveAddress ulBaudRate eParity).1 = .enoerr ↔
      opened = true ∧ eMode = mbRtu ∧
        mbAddressMin ≤ ucSlaveAddress.toNat ∧ ucSlaveAddress.toNat ≤ mbAddressMax := by
  unfold eMBInit
  by_cases refused : ucSlaveAddress = mbAddressBroadcast ∨
      ucSlaveAddress.toNat < mbAddressMin ∨ mbAddressMax < ucSlaveAddress.toNat
  · rw [if_pos refused]
    refine iff_of_false nofun ?_
    rintro ⟨_, _, lower, upper⟩
    rcases refused with rfl | below | above
    · exact absurd lower (by decide)
    · omega
    · omega
  · rw [if_neg refused]
    have lower : mbAddressMin ≤ ucSlaveAddress.toNat :=
      Nat.le_of_not_lt fun below => refused (.inr (.inl below))
    have upper : ucSlaveAddress.toNat ≤ mbAddressMax :=
      Nat.le_of_not_lt fun above => refused (.inr (.inr above))
    by_cases rtu : eMode = mbRtu
    · simp only [if_pos rtu]
      cases opened with
      | true => exact iff_of_true rfl ⟨rfl, rtu, lower, upper⟩
      | false => exact iff_of_false nofun fun wanted => nomatch wanted.1
    · simp only [if_neg rtu]
      exact iff_of_false nofun fun wanted => rtu wanted.2.1

theorem eMBInit_rtu (lower : mbAddressMin ≤ ucSlaveAddress.toNat)
    (upper : ucSlaveAddress.toNat ≤ mbAddressMax) :
    eMBInit opened stack mbRtu ucSlaveAddress ulBaudRate eParity =
      let addressed := { stack with
        ucMBAddress := ucSlaveAddress
        serial := stack.serial.configure ulBaudRate eParity }
      if opened then
        (.enoerr, { addressed with eMBCurrentMode := mbRtu, eMBState := .disabled })
      else (.eporterr, addressed) := by
  have accepted : ¬ (ucSlaveAddress = mbAddressBroadcast ∨
      ucSlaveAddress.toNat < mbAddressMin ∨ mbAddressMax < ucSlaveAddress.toNat) := by
    rintro (rfl | below | above)
    · cases lower
    · exact Nat.not_lt_of_le lower below
    · exact Nat.not_lt_of_le upper above
  unfold eMBInit
  rw [if_neg accepted]
  simp only [if_pos]

theorem eMBInit_state :
    (eMBInit opened stack eMode ucSlaveAddress ulBaudRate eParity).1 = .enoerr ∨
      (eMBInit opened stack eMode ucSlaveAddress ulBaudRate eParity).2.eMBState =
        stack.eMBState := by
  unfold eMBInit
  split
  · exact .inr rfl
  · simp only
    split
    · cases opened with
      | true => exact .inl rfl
      | false => exact .inr rfl
    · exact .inr rfl

end Init

/-- A frame the port knows does not depend on the one before it. -/
theorem SerialConfig.configure_known {first second : SerialConfig} {ulBaudRate : U32}
    {eParity : U8} (known : eParity.toNat ≤ 2) :
    first.configure ulBaudRate eParity = second.configure ulBaudRate eParity := by
  unfold configure
  simp only
  split
  · rfl
  split
  · rfl
  split
  · rfl
  · next unknown2 unknown1 unknown0 =>
    have index : eParity.toNat = 0 ∨ eParity.toNat = 1 ∨ eParity.toNat = 2 := by omega
    rcases index with zero | one | two
    · exact absurd (BitVec.eq_of_toNat_eq zero) unknown2
    · exact absurd (BitVec.eq_of_toNat_eq one) unknown1
    · exact absurd (BitVec.eq_of_toNat_eq two) unknown0

end ZhuoduControl.Modbus
