import ZhuoduControl.Data.Word

/-! Opening a serial device again and again: `rt_device_open` counts and never closes. -/

set_option autoImplicit false

namespace ZhuoduControl.Drivers

open ZhuoduControl.Data

section Flags

def rtDeviceFlagRdwr : U16 := 0x003
def rtDeviceFlagStandalone : U16 := 0x008
def rtDeviceFlagActivated : U16 := 0x010
def rtDeviceFlagIntRx : U16 := 0x100
def rtDeviceFlagDmaRx : U16 := 0x200
def rtDeviceFlagIntTx : U16 := 0x400
def rtDeviceFlagDmaTx : U16 := 0x800
def rtDeviceOflagRdwr : U16 := 0x003
def rtDeviceOflagOpen : U16 := 0x008

end Flags

def has (flags flag : U16) : Bool := flags &&& flag != 0

inductive RtErr
  | eok
  | ebusy
  | eio
deriving DecidableEq, Repr

/-- A `rt_serial_device`; of its two buffers, whether they are allocated. -/
structure SerialDevice where
  flag : U16
  openFlag : U16
  refCount : U8
  serialRx : Bool
  serialTx : Bool
deriving DecidableEq, Repr

namespace SerialDevice

/-- `rt_hw_serial_register`. -/
def register (flags : U16) (serial : SerialDevice) : SerialDevice :=
  { serial with flag := flags, openFlag := 0, refCount := 0 }

/-- `stm32_configure` has only the result `RT_EOK`. -/
def rtSerialInit (serial : SerialDevice) : SerialDevice :=
  { serial with serialRx := false, serialTx := false }

/-- One of the two buffers, in the mode that is tested first. `room` is whether `rt_malloc` finds
memory; the assertion behind it fails otherwise. -/
def allocate (room : Bool) (oflag dma int : U16) (allocated : Bool) (openFlag : U16) :
    Option (Bool × U16) :=
  if allocated then some (true, openFlag)
  else if has oflag dma then if room then some (true, openFlag ||| dma) else none
  else if has oflag int then if room then some (true, openFlag ||| int) else none
  else some (false, openFlag)

/-- `none` is an assertion that fails. -/
def rtSerialOpen (room : Bool) (oflag : U16) (serial : SerialDevice) :
    Option (RtErr × SerialDevice) :=
  if has oflag rtDeviceFlagDmaRx && !has serial.flag rtDeviceFlagDmaRx then some (.eio, serial)
  else if has oflag rtDeviceFlagDmaTx && !has serial.flag rtDeviceFlagDmaTx then some (.eio, serial)
  else if has oflag rtDeviceFlagIntRx && !has serial.flag rtDeviceFlagIntRx then some (.eio, serial)
  else if has oflag rtDeviceFlagIntTx && !has serial.flag rtDeviceFlagIntTx then some (.eio, serial)
  else
    (allocate room oflag rtDeviceFlagDmaRx rtDeviceFlagIntRx serial.serialRx
      (oflag &&& 0xFF)).bind fun (serialRx, openFlag) =>
        (allocate room oflag rtDeviceFlagDmaTx rtDeviceFlagIntTx serial.serialTx openFlag).map
          fun (serialTx, openFlag) =>
            (.eok, { serial with openFlag := openFlag, serialRx := serialRx, serialTx := serialTx })

/-- `rt_device_open` of a serial device; the assertion on the count is behind its increment. -/
def rtDeviceOpen (room : Bool) (oflag : U16) (serial : SerialDevice) :
    Option (RtErr × SerialDevice) :=
  let serial :=
    if has serial.flag rtDeviceFlagActivated then serial
    else
      let serial := serial.rtSerialInit
      { serial with flag := serial.flag ||| rtDeviceFlagActivated }
  if has serial.flag rtDeviceFlagStandalone && has serial.openFlag rtDeviceOflagOpen then
    some (.ebusy, serial)
  else
    (serial.rtSerialOpen room oflag).bind fun (result, serial) =>
      if result = .eok then
        let serial :=
          { serial with openFlag := oflag ||| rtDeviceOflagOpen, refCount := serial.refCount + 1 }
        if serial.refCount ≠ 0 then some (.eok, serial) else none
      else some (result, serial)

/-- A device that can be opened any number of times with `oflag`. -/
structure Shared (oflag : U16) (serial : SerialDevice) : Prop where
  shared : has serial.flag rtDeviceFlagStandalone = false
  dmaRx : has oflag rtDeviceFlagDmaRx = true → has serial.flag rtDeviceFlagDmaRx = true
  dmaTx : has oflag rtDeviceFlagDmaTx = true → has serial.flag rtDeviceFlagDmaTx = true
  intRx : has oflag rtDeviceFlagIntRx = true → has serial.flag rtDeviceFlagIntRx = true
  intTx : has oflag rtDeviceFlagIntTx = true → has serial.flag rtDeviceFlagIntTx = true

section Open

variable {room : Bool} {oflag : U16} {serial after : SerialDevice} {result : RtErr}

theorem has_or (flags other flag : U16) :
    has (flags ||| other) flag = (has flags flag || has other flag) := by
  have distributed : (flags ||| other) &&& flag = flags &&& flag ||| other &&& flag := by
    apply BitVec.eq_of_getLsbD_eq
    intro index _
    simp only [BitVec.getLsbD_and, BitVec.getLsbD_or, Bool.and_or_distrib_right]
  unfold has
  rw [distributed, Bool.eq_iff_iff]
  simp [BitVec.or_eq_zero_iff, Classical.or_iff_not_imp_left]

/-- The device is activated, which its open needs for no other flag. -/
theorem Shared.activated (shared : Shared oflag serial) :
    Shared oflag { serial with flag := serial.flag ||| rtDeviceFlagActivated } where
  shared := by
    change has (serial.flag ||| rtDeviceFlagActivated) rtDeviceFlagStandalone = false
    rw [has_or, shared.shared]
    rfl
  dmaRx := by
    intro wanted
    rw [has_or, shared.dmaRx wanted]
    rfl
  dmaTx := by
    intro wanted
    rw [has_or, shared.dmaTx wanted]
    rfl
  intRx := by
    intro wanted
    rw [has_or, shared.intRx wanted]
    rfl
  intTx := by
    intro wanted
    rw [has_or, shared.intTx wanted]
    rfl

theorem rtSerialOpen_shared (shared : Shared oflag serial)
    (opened : serial.rtSerialOpen room oflag = some (result, after)) :
    result = .eok ∧ after.flag = serial.flag := by
  have supported (flag : U16) (listed : has oflag flag = true → has serial.flag flag = true) :
      ¬ (has oflag flag && !has serial.flag flag) = true := by
    intro unsupported
    rw [Bool.and_eq_true, Bool.not_eq_true'] at unsupported
    cases unsupported.2.symm.trans (listed unsupported.1)
  unfold rtSerialOpen at opened
  rw [if_neg (supported _ shared.dmaRx), if_neg (supported _ shared.dmaTx),
    if_neg (supported _ shared.intRx), if_neg (supported _ shared.intTx)] at opened
  obtain ⟨⟨serialRx, openFlag⟩, _, allocated⟩ := Option.bind_eq_some_iff.mp opened
  obtain ⟨⟨serialTx, openFlag⟩, _, same⟩ := Option.map_eq_some_iff.mp allocated
  cases same
  exact ⟨rfl, rfl⟩

theorem Shared.of_flag {other : SerialDevice} (shared : Shared oflag serial)
    (same : other.flag = serial.flag) : Shared oflag other := by
  obtain ⟨single, dmaRx, dmaTx, intRx, intTx⟩ := shared
  rw [← same] at single dmaRx dmaTx intRx intTx
  exact ⟨single, dmaRx, dmaTx, intRx, intTx⟩

/-- A shared device opens each time, unless an assertion fails. -/
theorem rtDeviceOpen_shared (shared : Shared oflag serial)
    (opened : serial.rtDeviceOpen room oflag = some (result, after)) :
    result = .eok ∧ Shared oflag after := by
  unfold rtDeviceOpen at opened
  dsimp only at opened
  generalize ready : (if has serial.flag rtDeviceFlagActivated then serial
    else { serial.rtSerialInit with
      flag := serial.rtSerialInit.flag ||| rtDeviceFlagActivated }) = active at opened
  have kept : Shared oflag active := by
    rw [← ready]
    split
    · exact shared
    · exact shared.activated.of_flag rfl
  have single : ¬ (has active.flag rtDeviceFlagStandalone &&
      has active.openFlag rtDeviceOflagOpen) = true := by
    rw [kept.shared, Bool.false_and]
    exact nofun
  rw [if_neg single] at opened
  obtain ⟨⟨answer, left⟩, called, counted⟩ := Option.bind_eq_some_iff.mp opened
  obtain ⟨rfl, same⟩ := rtSerialOpen_shared kept called
  dsimp only at counted
  rw [if_pos rfl] at counted
  split at counted
  · cases counted
    exact ⟨rfl, kept.of_flag same⟩
  · cases counted

end Open

end SerialDevice

/-- `uart3` after `rt_hw_usart_init`. -/
def serial3 : SerialDevice :=
  SerialDevice.register
    (rtDeviceFlagRdwr ||| rtDeviceFlagIntRx ||| rtDeviceFlagIntTx ||| rtDeviceFlagDmaRx)
    ⟨0, 0, 0, false, false⟩

/-- How `xMBPortSerialInit` opens the port. -/
def portOflag : U16 := rtDeviceOflagRdwr ||| rtDeviceFlagIntRx

theorem serial3_shared : serial3.Shared portOflag := by
  constructor <;> decide

end ZhuoduControl.Drivers
