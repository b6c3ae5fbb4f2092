import ZhuoduControl.Kernel.Event
import ZhuoduControl.Modbus.RtuFrame

/-! The serial side of the slave: the two state machines that fill and empty its one
buffer, the timer of the end of a frame and the event by which its thread is told. -/

set_option autoImplicit false

namespace ZhuoduControl.Modbus.Rtu

open ZhuoduControl.Library
open ZhuoduControl.Data
open ZhuoduControl.Kernel

inductive MBRcvState
  | init
  | idle
  | rcv
  | error
deriving DecidableEq, Repr

inductive MBSndState
  | idle
  | xmit
deriving DecidableEq, Repr

inductive SlaveEvent
  | ready
  | frameReceived
  | execute
  | frameSent
deriving DecidableEq, Repr

/-- `eMBEventType` -/
def SlaveEvent.bit : SlaveEvent → U32
  | .ready => 1
  | .frameReceived => 2
  | .execute => 4
  | .frameSent => 8

/-- The cases of `xMBPortEventGet`; more than one bit at a time match none, so that `*eEvent`
keeps what it held. -/
def SlaveEvent.ofBits (recvedEvent : U32) : Option SlaveEvent :=
  if recvedEvent = 1 then some .ready
  else if recvedEvent = 2 then some .frameReceived
  else if recvedEvent = 4 then some .execute
  else if recvedEvent = 8 then some .frameSent
  else none

/-- `xSlaveOsEvent` and what its one receiver has been given; that is nothing while the
receiver is suspended. -/
structure SlaveOsEvent where
  event : RtEvent Unit
  recvedEvent : Option U32
deriving DecidableEq, Repr

namespace SlaveOsEvent

def xMBPortEventPost (osEvent : SlaveOsEvent) (eEvent : SlaveEvent) : SlaveOsEvent :=
  let sent := rtEventSend osEvent.event eEvent.bit
  ⟨sent.event, (sent.resumed.head?.map Waiter.eventSet).or osEvent.recvedEvent⟩

/-- The receiver waits forever. -/
def xMBPortEventGet (osEvent : SlaveOsEvent) : SlaveOsEvent :=
  let (event, receiving) := rtEventRecv .prio (fun _ => 0) osEvent.event () 15 ⟨false, true⟩ true
  match receiving with
  | .received recvedEvent => ⟨event, some recvedEvent⟩
  | .refused => ⟨event, none⟩
  | .timedOut => ⟨event, none⟩
  | .suspended => ⟨event, none⟩

/-- No event, and the thread is suspended. -/
def quiet : SlaveOsEvent := ⟨⟨0, [⟨(), 15, ⟨false, true⟩⟩]⟩, none⟩

/-- The thread has been given an event, and there is no other. -/
def pending (eEvent : SlaveEvent) : SlaveOsEvent := ⟨⟨0, []⟩, some eEvent.bit⟩

/-- The event is one of those that the thread has been given or still has to take. -/
def awaits (osEvent : SlaveOsEvent) (eEvent : SlaveEvent) : Bool :=
  (osEvent.event.set ||| osEvent.recvedEvent.getD 0) &&& eEvent.bit ≠ 0

theorem quiet_post (eEvent : SlaveEvent) : quiet.xMBPortEventPost eEvent = pending eEvent := by
  cases eEvent with
  | ready => decide
  | frameReceived => decide
  | execute => decide
  | frameSent => decide

/-- What the thread was given before makes no difference. -/
theorem get_given (event : RtEvent Unit) (given other : Option U32) :
    SlaveOsEvent.xMBPortEventGet ⟨event, given⟩ = SlaveOsEvent.xMBPortEventGet ⟨event, other⟩ := rfl

theorem pending_get (eEvent : SlaveEvent) : (pending eEvent).xMBPortEventGet = quiet := by
  rw [pending, get_given _ _ none]
  decide

/-- An event that the thread posts itself is the next that it takes. -/
theorem pending_post_get (eEvent next : SlaveEvent) :
    ((pending eEvent).xMBPortEventPost next).xMBPortEventGet = pending next := by
  have posted : (pending eEvent).xMBPortEventPost next = ⟨⟨0 ||| next.bit, []⟩, some eEvent.bit⟩ := by
    cases next with
    | ready => rfl
    | frameReceived => rfl
    | execute => rfl
    | frameSent => rfl
  rw [posted, get_given _ _ none]
  cases next with
  | ready => decide
  | frameReceived => decide
  | execute => decide
  | frameSent => decide

end SlaveOsEvent

/-- Where the thread `serial_soft_trans_irq` stands: at its wait, or in the last pass of
`xMBRTUTransmitFSM` behind the post of the event or behind the call of `vMBPortSerialEnable`. -/
inductive SoftTransIrq
  | waits
  | posted
  | enabled
deriving DecidableEq, Repr

/-- The static variables of the module and what the port has been told. -/
structure SlaveRtu where
  eSndState : MBSndState
  eRcvState : MBRcvState
  ucRTUBuf : Memory U8
  /-- an offset in the buffer -/
  pucSndBufferCur : Nat
  usSndBufferCount : Nat
  usRcvBufferPos : Nat
  rxEnabled : Bool
  txEnabled : Bool
  timerRunning : Bool
  xSlaveOsEvent : SlaveOsEvent
  softTransIrq : SoftTransIrq

namespace SlaveRtu

def vMBPortSerialEnable (rtu : SlaveRtu) (xRxEnable xTxEnable : Bool) : SlaveRtu :=
  { rtu with rxEnabled := xRxEnable, txEnabled := xTxEnable }

/-- A timer that runs starts anew. -/
def vMBPortTimersEnable (rtu : SlaveRtu) : SlaveRtu := { rtu with timerRunning := true }

def vMBPortTimersDisable (rtu : SlaveRtu) : SlaveRtu := { rtu with timerRunning := false }

def xMBPortEventPost (rtu : SlaveRtu) (eEvent : SlaveEvent) : SlaveRtu :=
  { rtu with xSlaveOsEvent := rtu.xSlaveOsEvent.xMBPortEventPost eEvent }

def eMBRTUStart (rtu : SlaveRtu) : SlaveRtu :=
  ({ rtu with eRcvState := .init }.vMBPortSerialEnable true false).vMBPortTimersEnable

def eMBRTUReceive (rtu : SlaveRtu) : Option Received :=
  receiveFrom rtu.ucRTUBuf rtu.usRcvBufferPos

/-- `pucFrame` is an offset in the buffer; `none` is `MB_EIO`. -/
def eMBRTUSend (rtu : SlaveRtu) (ucSlaveAddress : U8) (pucFrame usLength : Nat) :
    Option SlaveRtu :=
  if rtu.eRcvState = .idle then
    let pucSndBufferCur := pucFrame - 1
    let buffer := rtu.ucRTUBuf.set pucSndBufferCur ucSlaveAddress
    let usSndBufferCount := 1 + usLength
    let usCRC16 := usMBCRC16 (buffer.load pucSndBufferCur usSndBufferCount)
    let buffer := buffer.set usSndBufferCount (Word.lowByte usCRC16)
    let buffer := buffer.set (usSndBufferCount + 1) (Word.highByte usCRC16)
    let sending := { rtu with
      ucRTUBuf := buffer
      pucSndBufferCur := pucSndBufferCur
      usSndBufferCount := usSndBufferCount + 2
      eSndState := .xmit }
    some (sending.vMBPortSerialEnable false true)
  else
    none

def xMBRTUReceiveFSM (rtu : SlaveRtu) (ucByte : U8) : SlaveRtu :=
  match rtu.eRcvState with
  | .init => rtu.vMBPortTimersEnable
  | .error => rtu.vMBPortTimersEnable
  | .idle =>
      { rtu with
        ucRTUBuf := rtu.ucRTUBuf.set 0 ucByte
        usRcvBufferPos := 1
        eRcvState := .rcv }.vMBPortTimersEnable
  | .rcv =>
      if rtu.usRcvBufferPos < mbSerPduSizeMax then
        { rtu with
          ucRTUBuf := rtu.ucRTUBuf.set rtu.usRcvBufferPos ucByte
          usRcvBufferPos := rtu.usRcvBufferPos + 1 }.vMBPortTimersEnable
      else
        { rtu with eRcvState := .error }.vMBPortTimersEnable

/-- The thread up to the next place where an interrupt may find it; beside the state the byte
that is put on the line, if any. -/
def xMBRTUTransmitFSM (rtu : SlaveRtu) : Option U8 × SlaveRtu :=
  match rtu.softTransIrq with
  | .waits =>
      match rtu.eSndState with
      | .idle => (none, rtu.vMBPortSerialEnable true false)
      | .xmit =>
          if rtu.usSndBufferCount ≠ 0 then
            (some (rtu.ucRTUBuf rtu.pucSndBufferCur),
              { rtu with
                pucSndBufferCur := rtu.pucSndBufferCur + 1
                usSndBufferCount := rtu.usSndBufferCount - 1 })
          else
            (none, { rtu.xMBPortEventPost .frameSent with softTransIrq := .posted })
  | .posted => (none, { rtu.vMBPortSerialEnable true false with softTransIrq := .enabled })
  -- bytes already come in again
  | .enabled => (none, { rtu with eSndState := .idle, softTransIrq := .waits })

def xMBRTUTimerT35Expired (rtu : SlaveRtu) : SlaveRtu :=
  let posted :=
    match rtu.eRcvState with
    | .init => rtu.xMBPortEventPost .ready
    | .rcv => rtu.xMBPortEventPost .frameReceived
    | .error => rtu
    | .idle => rtu
  { posted.vMBPortTimersDisable with eRcvState := .idle }

end SlaveRtu

section Machines

/-- The event that the end of a silence posts, by the state of the receiver. -/
def MBRcvState.expired : MBRcvState → SlaveOsEvent → SlaveOsEvent
  | .init, osEvent => osEvent.xMBPortEventPost .ready
  | .rcv, osEvent => osEvent.xMBPortEventPost .frameReceived
  | .error, osEvent => osEvent
  | .idle, osEvent => osEvent

theorem xMBRTUTimerT35Expired_eq (rtu : SlaveRtu) :
    rtu.xMBRTUTimerT35Expired = { rtu with
      eRcvState := .idle
      timerRunning := false
      xSlaveOsEvent := rtu.eRcvState.expired rtu.xSlaveOsEvent } := by
  unfold SlaveRtu.xMBRTUTimerT35Expired
  cases rtu.eRcvState with
  | init => rfl
  | idle => rfl
  | rcv => rfl
  | error => rfl

theorem xMBRTUTransmitFSM_byte {rtu : SlaveRtu} {remaining : Nat} (place : rtu.softTransIrq = .waits)
    (xmit : rtu.eSndState = .xmit) (count : rtu.usSndBufferCount = remaining + 1) :
    rtu.xMBRTUTransmitFSM =
      (some (rtu.ucRTUBuf rtu.pucSndBufferCur), { rtu with
        pucSndBufferCur := rtu.pucSndBufferCur + 1
        usSndBufferCount := remaining }) := by
  have more : rtu.usSndBufferCount ≠ 0 := count ▸ Nat.succ_ne_zero remaining
  have left : rtu.usSndBufferCount - 1 = remaining := count ▸ rfl
  unfold SlaveRtu.xMBRTUTransmitFSM
  rw [place, xmit]
  simp only [if_pos more, left]

theorem xMBRTUTransmitFSM_done {rtu : SlaveRtu} (place : rtu.softTransIrq = .waits)
    (xmit : rtu.eSndState = .xmit) (count : rtu.usSndBufferCount = 0) :
    rtu.xMBRTUTransmitFSM =
      (none, { rtu with
        xSlaveOsEvent := rtu.xSlaveOsEvent.xMBPortEventPost .frameSent
        softTransIrq := .posted }) := by
  have ended : ¬ rtu.usSndBufferCount ≠ 0 := fun more => more count
  unfold SlaveRtu.xMBRTUTransmitFSM
  rw [place, xmit]
  simp only [if_neg ended]
  rw [← xmit]
  rfl

end Machines

section Send

variable {rtu sending : SlaveRtu} {ucSlaveAddress : U8} {usLength : Nat}

/-- The bytes that wait for transmission. -/
def SlaveRtu.queued (rtu : SlaveRtu) : List U8 :=
  rtu.ucRTUBuf.load rtu.pucSndBufferCur rtu.usSndBufferCount

/-- A call with the PDU that stands in the buffer itself. -/
theorem eMBRTUSend_eq (idle : rtu.eRcvState = .idle) :
    rtu.eMBRTUSend ucSlaveAddress mbSerPduPduOff usLength =
      some { rtu with
        ucRTUBuf := build rtu.ucRTUBuf ucSlaveAddress usLength
        pucSndBufferCur := 0
        usSndBufferCount := usLength + 3
        eSndState := .xmit
        rxEnabled := false
        txEnabled := true } := by
  have count : 1 + usLength + 2 = usLength + 3 := by omega
  unfold SlaveRtu.eMBRTUSend
  rw [if_pos idle]
  simp only [SlaveRtu.vMBPortSerialEnable, mbSerPduPduOff, Nat.sub_self, count]
  rfl

end Send

end ZhuoduControl.Modbus.Rtu
