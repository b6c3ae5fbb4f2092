import ZhuoduControl.Data.Word
import ZhuoduControl.Library.Memory

/-! Transfers on the bit-banged I2C bus, byte by byte. A message has a 7-bit address and
neither `RT_I2C_IGNORE_NACK` nor `RT_I2C_NO_READ_ACK`; the clock is never stretched for too
long. -/

set_option autoImplicit false

namespace ZhuoduControl.Drivers

open ZhuoduControl.Library
open ZhuoduControl.Data

/-- The device behind the bus: its answer to an address byte after a start condition, to a
byte written and to a byte read. -/
structure I2cSlave (State : Type) where
  address : State → U8 → Bool × State
  write : State → U8 → Bool × State
  read : State → U8 × State
  stop : State → State

structure I2cMsg where
  addr : U16
  /-- `RT_I2C_RD` -/
  rd : Bool
  /-- `RT_I2C_NO_START` -/
  noStart : Bool
  len : U16
  buf : Memory U8

def rtError : Int := 1
def rtEio : Int := 8

section Transfer

variable {State : Type} (slave : I2cSlave State)

/-- The bytes sent, or 0 as soon as one is not acknowledged. -/
def i2cSendBytes (state : State) (bytes : Nat) : List U8 → Nat × State
  | [] => (bytes, state)
  | byte :: rest =>
      let (ack, next) := slave.write state byte
      if ack then i2cSendBytes next (bytes + 1) rest else (0, next)

def i2cRecvBytes (state : State) : Nat → List U8 × State
  | 0 => ([], state)
  | count + 1 =>
      let (byte, next) := slave.read state
      let (bytes, last) := i2cRecvBytes next count
      (byte :: bytes, last)

/-- The address is sent again, after a stop and a start, for each retry. -/
def i2cSendAddress (state : State) (addr : U8) : Nat → Bool × State
  | 0 => slave.address state addr
  | retries + 1 =>
      let (ack, next) := slave.address state addr
      if ack then (true, next) else i2cSendAddress (slave.stop next) addr retries

def i2cBitSendAddress (retries : Nat) (state : State) (msg : I2cMsg) : Bool × State :=
  let addr1 : U8 := (msg.addr <<< 1).setWidth 8
  let addr1 := if msg.rd then addr1 ||| 1 else addr1
  i2cSendAddress slave state addr1 retries

structure XferResult (State : Type) where
  ret : Int
  msgs : List I2cMsg
  state : State

/-- The loop of `i2c_bit_xfer` from message `i` on. -/
def i2cXferFrom (retries : Nat) (i : Nat) (state : State) : List I2cMsg → XferResult State
  | [] => ⟨i, [], state⟩
  | msg :: rest =>
      let (addressed, state) :=
        if msg.noStart then (true, state) else i2cBitSendAddress slave retries state msg
      if addressed then
        if msg.rd then
          let (bytes, state) := i2cRecvBytes slave state msg.len.toNat
          let received := { msg with buf := msg.buf.store 0 bytes }
          let result := i2cXferFrom retries (i + 1) state rest
          { result with msgs := received :: result.msgs }
        else
          let (sent, state) := i2cSendBytes slave state 0 (msg.buf.load 0 msg.len.toNat)
          if sent < msg.len.toNat then ⟨-rtError, msg :: rest, state⟩
          else
            let result := i2cXferFrom retries (i + 1) state rest
            { result with msgs := msg :: result.msgs }
      else ⟨-rtEio, msg :: rest, state⟩

def i2cBitXfer (retries : Nat) (state : State) (msgs : List I2cMsg) : XferResult State :=
  let result := i2cXferFrom slave retries 0 state msgs
  { result with state := slave.stop result.state }

/-- Every byte is acknowledged. -/
structure I2cSlave.Acknowledges (valid : U8 → Prop) : Prop where
  address : ∀ state addr, valid addr → (slave.address state addr).1 = true
  write : ∀ state byte, (slave.write state byte).1 = true

variable {slave} {valid : U8 → Prop} (acknowledges : slave.Acknowledges valid)

include acknowledges

theorem i2cSendBytes_acknowledged (state : State) (bytes : Nat) (data : List U8) :
    i2cSendBytes slave state bytes data =
      (bytes + data.length, data.foldl (fun state byte => (slave.write state byte).2) state) := by
  induction data generalizing state bytes with
  | nil => rfl
  | cons byte rest ih =>
      unfold i2cSendBytes
      simp only [acknowledges.write, if_true]
      rw [ih, List.length_cons, Nat.add_assoc, Nat.add_comm 1, List.foldl_cons]

theorem i2cSendAddress_acknowledged (state : State) {addr : U8} (known : valid addr)
    (retries : Nat) :
    i2cSendAddress slave state addr retries = (true, (slave.address state addr).2) := by
  have ack := acknowledges.address state addr known
  cases retries with
  | zero => exact Prod.ext ack rfl
  | succ retries =>
      unfold i2cSendAddress
      simp only [ack, if_true]

end Transfer

end ZhuoduControl.Drivers
