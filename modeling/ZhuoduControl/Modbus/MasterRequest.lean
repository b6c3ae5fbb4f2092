import ZhuoduControl.Modbus.HoldingCallback
import ZhuoduControl.Modbus.Message

/-! One synchronous request of the Modbus master: what is put on the bus, how the
poll loop executes the answer and which error code the caller gets. -/

set_option autoImplicit false

namespace ZhuoduControl.Modbus

open ZhuoduControl.Library
open ZhuoduControl.Data

/-- `eMBException`; an exception answer casts any byte to it. -/
abbrev MBException := U8

def exNone : MBException := 0x00
def exIllegalFunction : MBException := 0x01
def exIllegalDataAddress : MBException := 0x02
def exIllegalDataValue : MBException := 0x03
def exSlaveDeviceFailure : MBException := 0x04
def exSlaveBusy : MBException := 0x06

def prveMBError2Exception : MBErrorCode → MBException
  | .enoerr => exNone
  | .enoreg => exIllegalDataAddress
  | .etimedout => exSlaveBusy
  | _ => exSlaveDeviceFailure

inductive MBMasterReqErrCode
  | noErr
  | noReg
  | illArg
  | revData
  | timedout
  | masterBusy
  | exeFun
deriving DecidableEq, Repr

structure Master where
  mirror : Mirror
  pduSndBuf : Memory U8

def pduWord (frame : Memory U8) (offset : Nat) : U16 :=
  Word.bigEndian (frame offset) (frame (offset + 1))

section Handlers

variable (stale : HoldingRange) (row : Row) (mirror : Mirror)

def holdingCallback (pucRegBuffer : Memory U8) (usAddress usNRegs : U16) : MBException × Mirror :=
  let result := eMBMasterRegHoldingCB stale row mirror pucRegBuffer usAddress usNRegs
  (prveMBError2Exception result.status, result.mirror)

/-- The address is the one of the received frame. -/
def eMBMasterFuncWriteHoldingRegister (pucFrame : Memory U8) (usLen : U16) :
    MBException × Mirror :=
  if usLen = 5 then
    holdingCallback stale row mirror (fun index => pucFrame (3 + index)) (pduWord pucFrame 1 + 1) 1
  else
    (exIllegalDataValue, mirror)

/-- Address, count and values are the ones of the request. -/
def eMBMasterFuncWriteMultipleHoldingRegister (ucMBFrame : Memory U8) (usLen : U16) :
    MBException × Mirror :=
  if usLen = 5 then
    let usRegCount := pduWord ucMBFrame 3
    if (ucMBFrame 5).toNat = 2 * usRegCount.toNat then
      holdingCallback stale row mirror (fun index => ucMBFrame (6 + index))
        (pduWord ucMBFrame 1 + 1) usRegCount
    else
      (exIllegalDataValue, mirror)
  else
    (exIllegalDataValue, mirror)

/-- Address and count are the ones of the request, the values those of the answer. -/
def eMBMasterFuncReadHoldingRegister (ucMBFrame pucFrame : Memory U8) (usLen : U16) :
    MBException × Mirror :=
  if 2 ≤ usLen.toNat then
    let usRegCount := pduWord ucMBFrame 3
    if 1 ≤ usRegCount.toNat ∧ 2 * usRegCount.toNat = (pucFrame 1).toNat then
      holdingCallback stale row mirror (fun index => pucFrame (2 + index))
        (pduWord ucMBFrame 1 + 1) usRegCount
    else
      (exIllegalDataValue, mirror)
  else
    (exIllegalDataValue, mirror)

end Handlers

/-- The handlers of the remaining function codes (coils, inputs, slave id and
read/write), by request PDU, received PDU and its length. -/
abbrev OtherHandlers :=
  U8 → Option (Memory U8 → Memory U8 → U16 → MBException × (Mirror → Mirror))

/-- The case `EV_MASTER_EXECUTE` of `eMBMasterPoll` for a request to one slave. The
handler is looked up by the function code of the answer. -/
def eMBMasterPollExecute (others : OtherHandlers) (stale : HoldingRange) (row : Row)
    (master : Master) (ucMBFrame : Memory U8) (usLength : U16) : MBException × Mirror :=
  let ucFunctionCode := ucMBFrame 0
  if ucFunctionCode >>> 7 ≠ 0 then
    (ucMBFrame 1, master.mirror)
  else if ucFunctionCode = 3 then
    eMBMasterFuncReadHoldingRegister stale row master.mirror master.pduSndBuf ucMBFrame usLength
  else if ucFunctionCode = 16 then
    eMBMasterFuncWriteMultipleHoldingRegister stale row master.mirror master.pduSndBuf usLength
  else if ucFunctionCode = 6 then
    eMBMasterFuncWriteHoldingRegister stale row master.mirror ucMBFrame usLength
  else
    match others ucFunctionCode with
    | none => (exIllegalFunction, master.mirror)
    | some handler =>
        let (exception, effect) := handler master.pduSndBuf ucMBFrame usLength
        (exception, effect master.mirror)

/-- What can happen to one attempt: the master is taken by another request, no
answer comes, an answer is damaged or not from the slave asked, or a frame of the
slave is executed. -/
inductive Answer
  | busy
  | timeout
  | receiveError
  | frame (stale : HoldingRange) (ucMBFrame : Memory U8) (usLength : U16)

structure RequestResult where
  err : MBMasterReqErrCode
  transmitted : Bool
  master : Master

/-- `ucSndAddr - 1`; address 0, a broadcast, is requested nowhere. -/
def destRow (ucSndAddr : U8) : Row :=
  ⟨(ucSndAddr.toNat - 1) % masterTotalSlaveNum, Nat.mod_lt _ (by decide)⟩

/-- The part common to all requests: take the master, send `pdu`, wait for the end. -/
def masterRequest (others : OtherHandlers) (ucSndAddr : U8) (pdu : List U8) (master : Master)
    (answer : Answer) : RequestResult :=
  if masterTotalSlaveNum < ucSndAddr.toNat then
    ⟨.illArg, false, master⟩
  else
    let sent : Master := { master with pduSndBuf := master.pduSndBuf.store 0 pdu }
    match answer with
    | .busy => ⟨.masterBusy, false, master⟩
    | .timeout => ⟨.timedout, true, sent⟩
    | .receiveError => ⟨.revData, true, sent⟩
    | .frame stale ucMBFrame usLength =>
        let (exception, mirror) :=
          eMBMasterPollExecute others stale (destRow ucSndAddr) sent ucMBFrame usLength
        let finished : Master := { sent with mirror := mirror }
        if exception ≠ exNone then ⟨.exeFun, true, finished⟩ else ⟨.noErr, true, finished⟩

def writeHoldingPdu (usRegAddr usRegData : U16) : List U8 :=
  [6, Word.highByte usRegAddr, Word.lowByte usRegAddr,
    Word.highByte usRegData, Word.lowByte usRegData]

def writeMultiplePdu (usRegAddr : U16) (pusDataBuffer : List U16) : List U8 :=
  let usNRegs := BitVec.ofNat 16 pusDataBuffer.length
  [16, Word.highByte usRegAddr, Word.lowByte usRegAddr,
      Word.highByte usNRegs, Word.lowByte usNRegs, Word.lowByte (usNRegs * 2)] ++
    pusDataBuffer.flatMap fun word => [Word.highByte word, Word.lowByte word]

/-- The single write for `data_type` 0, the write of two registers otherwise. -/
def ModbusMsg.pdu (msg : ModbusMsg) : List U8 :=
  match msg.dat with
  | .half word => writeHoldingPdu msg.dataAddr word
  | .float _ => writeMultiplePdu msg.dataAddr msg.busWords

def ModbusMsg.request (others : OtherHandlers) (msg : ModbusMsg) (master : Master)
    (answer : Answer) : RequestResult :=
  masterRequest others msg.devAddr msg.pdu master answer

/-- The normal answer to a message: function code, address and, for a single write,
the value, for a multiple write the number of registers. -/
def ModbusMsg.normalPdu (msg : ModbusMsg) : List U8 :=
  match msg.dat with
  | .half word => writeHoldingPdu msg.dataAddr word
  | .float _ => [16, Word.highByte msg.dataAddr, Word.lowByte msg.dataAddr, 0, 2]

def Answer.Normal (msg : ModbusMsg) : Answer → Prop
  | .frame _ ucMBFrame usLength => usLength = 5 ∧ ucMBFrame.load 0 5 = msg.normalPdu
  | _ => False

end ZhuoduControl.Modbus
