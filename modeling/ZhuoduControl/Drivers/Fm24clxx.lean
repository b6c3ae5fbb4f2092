import ZhuoduControl.Drivers.I2cBus
import ZhuoduControl.Library.SerialMemory

/-! The FRAM of the board and its driver. -/

set_option autoImplicit false

namespace ZhuoduControl.Drivers

open ZhuoduControl.Library
open ZhuoduControl.Data

/-- The device of `fm24cl16_cfg`: 2048 bytes, the three high bits of an address in the
slave address and the other eight in the first byte written after it. -/
structure Fm24cl16 where
  array : SerialMemory 11 U8
  /-- the next byte written is an address byte -/
  addressing : Bool

namespace Fm24cl16

/-- Slave addresses from `1010000` to `1010111`, in front of the direction bit. -/
def Selected (addr : U8) : Prop := addr >>> 4 = 0xA

instance (addr : U8) : Decidable (Selected addr) := inferInstanceAs (Decidable (_ = _))

/-- An address byte selects the page, and for a write announces an address byte. -/
def select (device : Fm24cl16) (addr : U8) : Fm24cl16 :=
  let page := addr.extractLsb' 1 3
  let low := device.array.latch.extractLsb' 0 8
  ⟨⟨device.array.memory, page ++ low⟩, decide (addr.extractLsb' 0 1 = 0)⟩

def writeByte (device : Fm24cl16) (byte : U8) : Fm24cl16 :=
  if device.addressing then
    let page := device.array.latch.extractLsb' 8 3
    ⟨⟨device.array.memory, page ++ byte⟩, false⟩
  else ⟨device.array.write byte, false⟩

def slave : I2cSlave Fm24cl16 where
  address device addr := if Selected addr then (true, device.select addr) else (false, device)
  write device byte := (true, device.writeByte byte)
  read device :=
    let (byte, array) := device.array.read
    (byte, ⟨array, device.addressing⟩)
  stop device := { device with addressing := false }

theorem slave_acknowledges : slave.Acknowledges Selected :=
  ⟨fun _ _ selected => congrArg Prod.fst (if_pos selected), fun _ _ => rfl⟩

theorem recvBytes_eq (device : Fm24cl16) (count : Nat) :
    i2cRecvBytes slave device count =
      ((device.array.readAll count).1, ⟨(device.array.readAll count).2, device.addressing⟩) := by
  induction count generalizing device with
  | zero => rfl
  | succ count ih =>
      unfold i2cRecvBytes
      simp only [slave, SerialMemory.readAll] at ih ⊢
      rw [ih]

theorem sendBytes_eq (device : Fm24cl16) (ready : device.addressing = false) (data : List U8) :
    i2cSendBytes slave device 0 data = (data.length, ⟨device.array.writeAll data, false⟩) := by
  rw [i2cSendBytes_acknowledged slave_acknowledges, Nat.zero_add]
  refine Prod.ext rfl ?_
  induction data generalizing device with
  | nil =>
      obtain ⟨array, addressing⟩ := device
      cases ready
      rfl
  | cons byte rest ih =>
      have written : (slave.write device byte).2 = ⟨device.array.write byte, false⟩ := by
        simp only [slave, writeByte, ready, Bool.false_eq_true, if_false]
      rw [List.foldl_cons, written]
      exact ih ⟨device.array.write byte, false⟩ rfl

end Fm24cl16

/-- The members of `fm24cl16_cfg`; its flags are 0. -/
def cfgSize : U32 := 8 * 256
def cfgAddr : U16 := 0x50

/-- The two checks of a range: nothing from behind the array, and what the second one
leaves of the size. `pos` is signed, and compared as the unsigned `size` is. -/
def clampSize (pos size : U32) : Option U32 :=
  if cfgSize.toNat < pos.toNat then none
  else if cfgSize.toNat < (pos + size).toNat then some (cfgSize - pos)
  else some size

structure DriverResult where
  ret : U32
  buffer : Memory U8
  device : Fm24cl16

def addressMsg (pos : U32) : I2cMsg where
  addr := cfgAddr
  rd := false
  noStart := false
  len := 1
  buf := fun _ => pos.setWidth 8

def readMsg (buffer : Memory U8) (size : U32) : I2cMsg where
  addr := cfgAddr
  rd := true
  noStart := false
  len := size.setWidth 16
  buf := buffer

def writeMsg (buffer : Memory U8) (size : U32) : I2cMsg where
  addr := cfgAddr
  rd := false
  noStart := true
  len := size.setWidth 16
  buf := buffer

section Driver

variable (retries : Nat) (device : Fm24cl16) (pos : U32) (buffer : Memory U8) (size : U32)

def fm24clxxRead : DriverResult :=
  match clampSize pos size with
  | none => ⟨0, buffer, device⟩
  | some size =>
      let result := i2cBitXfer Fm24cl16.slave retries device [addressMsg pos, readMsg buffer size]
      let received := match result.msgs with
        | [_, msg] => msg.buf
        | _ => buffer
      ⟨if result.ret = 2 then size else 0, received, result.state⟩

def fm24clxxWrite : DriverResult :=
  match clampSize pos size with
  | none => ⟨0, buffer, device⟩
  | some size =>
      let result := i2cBitXfer Fm24cl16.slave retries device [addressMsg pos, writeMsg buffer size]
      ⟨if result.ret = 2 then size else 0, buffer, result.state⟩

end Driver

/-- The device after an address message: always in page 0. -/
def addressed (device : Fm24cl16) (pos : U32) : Fm24cl16 :=
  ⟨⟨device.array.memory, (0 : BitVec 3) ++ pos.setWidth 8⟩, false⟩

theorem addressed_latch (device : Fm24cl16) (pos : U32) :
    (addressed device pos).array.latch.toNat = pos.toNat % 256 := by
  have append : (addressed device pos).array.latch.toNat =
      (0 : BitVec 3).toNat <<< 8 ||| (pos.setWidth 8 : U8).toNat := BitVec.toNat_append ..
  rw [append, BitVec.toNat_setWidth]
  exact (congrArg (· ||| pos.toNat % 256) (Nat.zero_shiftLeft 8)).trans (Nat.zero_or _)

section Transaction

variable (retries : Nat) (device : Fm24cl16) (pos : U32) (buffer : Memory U8) (size : U32)

theorem bitSendAddress_eq (msg : I2cMsg) (addr : U8) (own : msg.addr = cfgAddr)
    (direction : addr = if msg.rd then 0xA1 else 0xA0) :
    i2cBitSendAddress Fm24cl16.slave retries device msg = (true, device.select addr) := by
  have byte : (if msg.rd then ((msg.addr <<< 1).setWidth 8 : U8) ||| 1
      else (msg.addr <<< 1).setWidth 8) = addr := by
    rw [own, direction]
    cases msg.rd <;> rfl
  have selected : Fm24cl16.Selected addr := by
    rw [direction]
    cases msg.rd <;> rfl
  simp only [i2cBitSendAddress, byte]
  rw [i2cSendAddress_acknowledged Fm24cl16.slave_acknowledges device selected]
  exact congrArg (Prod.mk true) (congrArg Prod.snd (if_pos selected))

theorem select_write :
    (device.select 0xA0).writeByte (pos.setWidth 8) = addressed device pos := by
  have page : ((device.select 0xA0).array.latch).extractLsb' 8 3 = 0 := by
    unfold Fm24cl16.select
    rw [BitVec.extractLsb'_append_eq_of_le (by decide)]
    rfl
  have announced : (device.select 0xA0).addressing = true := rfl
  simp only [Fm24cl16.writeByte, announced, if_true, page]
  rfl

theorem select_read : (addressed device pos).select 0xA1 = addressed device pos := by
  have low : (addressed device pos).array.latch.extractLsb' 0 8 = pos.setWidth 8 := by
    unfold addressed
    rw [BitVec.extractLsb'_append_eq_of_add_le (by decide)]
    exact BitVec.extractLsb'_eq_self
  simp only [Fm24cl16.select, low]
  rfl

theorem xferFrom_address (i : Nat) (rest : List I2cMsg) :
    i2cXferFrom Fm24cl16.slave retries i device (addressMsg pos :: rest) =
      let result := i2cXferFrom Fm24cl16.slave retries (i + 1) (addressed device pos) rest
      { result with msgs := addressMsg pos :: result.msgs } := by
  have address := bitSendAddress_eq retries device (addressMsg pos) 0xA0 rfl rfl
  have sent : i2cSendBytes Fm24cl16.slave (device.select 0xA0) 0
      ((addressMsg pos).buf.load 0 1) = (1, addressed device pos) := by
    rw [← select_write]
    rfl
  have direction : (addressMsg pos).rd = false := rfl
  have start : (addressMsg pos).noStart = false := rfl
  have length : (addressMsg pos).len.toNat = 1 := rfl
  rw [i2cXferFrom]
  simp only [start, Bool.false_eq_true, if_false, address, if_true, direction, sent, length,
    Nat.lt_irrefl]

theorem bitXfer_read :
    i2cBitXfer Fm24cl16.slave retries device [addressMsg pos, readMsg buffer size] =
      let count := (size.setWidth 16 : U16).toNat
      let read := (addressed device pos).array.readAll count
      ⟨2, [addressMsg pos, { readMsg buffer size with buf := buffer.store 0 read.1 }],
        ⟨read.2, false⟩⟩ := by
  have address :=
    bitSendAddress_eq retries (addressed device pos) (readMsg buffer size) 0xA1 rfl rfl
  rw [select_read] at address
  have received := Fm24cl16.recvBytes_eq (addressed device pos) (size.setWidth 16 : U16).toNat
  have direction : (readMsg buffer size).rd = true := rfl
  have start : (readMsg buffer size).noStart = false := rfl
  have length : (readMsg buffer size).len = size.setWidth 16 := rfl
  rw [i2cBitXfer, xferFrom_address, i2cXferFrom]
  simp only [start, Bool.false_eq_true, if_false, address, if_true, direction, length, received]
  rfl

theorem bitXfer_write :
    i2cBitXfer Fm24cl16.slave retries device [addressMsg pos, writeMsg buffer size] =
      let count := (size.setWidth 16 : U16).toNat
      ⟨2, [addressMsg pos, writeMsg buffer size],
        ⟨(addressed device pos).array.writeAll (buffer.load 0 count), false⟩⟩ := by
  have sent := Fm24cl16.sendBytes_eq (addressed device pos) rfl
    (buffer.load 0 (size.setWidth 16 : U16).toNat)
  rw [Memory.load_length] at sent
  have direction : (writeMsg buffer size).rd = false := rfl
  have start : (writeMsg buffer size).noStart = true := rfl
  have length : (writeMsg buffer size).len = size.setWidth 16 := rfl
  have data : (writeMsg buffer size).buf = buffer := rfl
  rw [i2cBitXfer, xferFrom_address, i2cXferFrom]
  simp only [start, if_true, Bool.false_eq_true, if_false, direction, length, data, sent,
    Nat.lt_irrefl]
  rfl

end Transaction

end ZhuoduControl.Drivers
