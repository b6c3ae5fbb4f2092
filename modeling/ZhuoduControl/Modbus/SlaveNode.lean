import ZhuoduControl.Library.MemoryParts
import ZhuoduControl.Library.Run
import ZhuoduControl.Modbus.MasterRequest
import ZhuoduControl.Modbus.SlaveRtu
import ZhuoduControl.Modbus.SlaveStack

/-! The slave as a whole: the interrupts of its serial port and its timer beside the
thread that polls, with the handlers of the function codes as a parameter. -/

set_option autoImplicit false

namespace ZhuoduControl.Modbus.Rtu

open ZhuoduControl.Library
open ZhuoduControl.Data

/-- What a handler leaves: its exception, the data behind its callback, the frame and
its length. -/
structure HandlerResult (App : Type) where
  eException : MBException
  app : App
  pucFrame : Memory U8
  usLen : Nat

/-- `xFuncHandlers`, by function code. -/
abbrev Handlers (App : Type) := U8 → Option (App → Memory U8 → Nat → HandlerResult App)

/-- `MB_FUNC_ERROR` -/
def mbFuncError : U8 := 0x80

/-- The PDU in the buffer of the serial side. -/
def pduOf (buffer : Memory U8) : Memory U8 := buffer.part mbSerPduPduOff

def withPdu (buffer pdu : Memory U8) : Memory U8 := buffer.withPart mbSerPduPduOff pdu

/-- The loop over `xFuncHandlers`. -/
def dispatch {App : Type} (handlers : Handlers App) (app : App) (ucMBFrame : Memory U8)
    (usLength : Nat) : HandlerResult App :=
  match handlers (ucMBFrame 0) with
  | none => ⟨exIllegalFunction, app, ucMBFrame, usLength⟩
  | some pxHandler => pxHandler app ucMBFrame usLength

/-- The part of `EV_EXECUTE` before the answer is sent: `replies` is whether it is. -/
structure Executed (App : Type) where
  app : App
  buffer : Memory U8
  usLength : Nat
  replies : Bool

def execute {App : Type} (handlers : Handlers App) (ucRcvAddress : U8) (app : App)
    (buffer : Memory U8) (usLength : Nat) : Executed App :=
  let ucMBFrame := pduOf buffer
  let ucFunctionCode := ucMBFrame 0
  let result := dispatch handlers app ucMBFrame usLength
  if ucRcvAddress ≠ mbAddressBroadcast then
    if result.eException ≠ exNone then
      let pdu := (result.pucFrame.set 0 (ucFunctionCode ||| mbFuncError)).set 1 result.eException
      ⟨result.app, withPdu buffer pdu, 2, true⟩
    else
      ⟨result.app, withPdu buffer result.pucFrame, result.usLen, true⟩
  else
    ⟨result.app, withPdu buffer result.pucFrame, result.usLen, false⟩

/-- The static variables of `mb.c` that `eMBPoll` uses once the stack is enabled. -/
structure SlaveNode (App : Type) where
  ucMBAddress : U8
  ucRcvAddress : U8
  usLength : Nat
  rtu : SlaveRtu
  app : App

section Poll

variable {App : Type} (handlers : Handlers App)

/-- The part of `EV_EXECUTE` behind the handler; an answer that the serial side refuses is
dropped. -/
def SlaveNode.answer (node : SlaveNode App) (executed : Executed App) : SlaveNode App :=
  let rtu := { node.rtu with ucRTUBuf := executed.buffer }
  let done := { node with app := executed.app, usLength := executed.usLength, rtu := rtu }
  if executed.replies then
    (rtu.eMBRTUSend node.ucMBAddress mbSerPduPduOff executed.usLength).elim done
      fun sending => { done with rtu := sending }
  else
    done

def eMBPoll (node : SlaveNode App) : SlaveEvent → SlaveNode App
  | .ready => node
  | .frameReceived =>
      match node.rtu.eMBRTUReceive with
      | none => node
      | some received =>
          let taken := { node with
            ucRcvAddress := received.ucRcvAddress
            usLength := received.usLength }
          if received.ucRcvAddress = node.ucMBAddress ∨
              received.ucRcvAddress = mbAddressBroadcast then
            { taken with rtu := taken.rtu.xMBPortEventPost .execute }
          else
            taken
  | .execute =>
      node.answer (execute handlers node.ucRcvAddress node.app node.rtu.ucRTUBuf node.usLength)
  | .frameSent => node

/-- A poll with what `xMBPortEventGet` was given; `stale` is what `eEvent` holds before. -/
def polledWith (node : SlaveNode App) (recvedEvent : U32) (stale : Option SlaveEvent) :
    SlaveNode App :=
  match (SlaveEvent.ofBits recvedEvent).or stale with
  | none => node
  | some eEvent => eMBPoll handlers node eEvent

/-- The thread comes to its next poll. -/
def SlaveNode.waits (node : SlaveNode App) : SlaveNode App :=
  { node with rtu := { node.rtu with
      xSlaveOsEvent := node.rtu.xSlaveOsEvent.xMBPortEventGet } }

/-- One step of the slave: a byte on the line, the end of the silence behind a frame, a step of
the thread of the transmitter, the thread that polls doing what it has been given events for, or
another thread changing what the handlers read. -/
inductive SlaveLabel (App : Type)
  | received (ucByte : U8)
  | t35
  | transmit
  | poll (stale : Option SlaveEvent)
  | update (change : App → App)

structure SlaveLine (App : Type) where
  node : SlaveNode App
  /-- the bytes put on the line so far -/
  sent : List U8

variable {handlers}

def SlaveLine.withRtu (line : SlaveLine App) (rtu : SlaveRtu) : SlaveLine App :=
  { line with node := { line.node with rtu := rtu } }

variable (handlers)

def SlaveLine.step (line : SlaveLine App) : SlaveLabel App → Option (SlaveLine App)
  | .received ucByte =>
      if line.node.rtu.rxEnabled then some (line.withRtu (line.node.rtu.xMBRTUReceiveFSM ucByte))
      else none
  | .t35 =>
      if line.node.rtu.timerRunning then some (line.withRtu line.node.rtu.xMBRTUTimerT35Expired)
      else none
  | .transmit =>
      if line.node.rtu.softTransIrq ≠ .waits ∨ line.node.rtu.txEnabled then
        let (ucByte, rtu) := line.node.rtu.xMBRTUTransmitFSM
        some { line.withRtu rtu with sent := line.sent ++ ucByte.toList }
      else none
  | .poll stale =>
      -- 12, behind the 10 of the thread of the transmitter
      if line.node.rtu.softTransIrq = .waits then
        line.node.rtu.xSlaveOsEvent.recvedEvent.map fun recvedEvent =>
          { line with node := (polledWith handlers line.node recvedEvent stale).waits }
      else none
  | .update change => some { line with node := { line.node with app := change line.node.app } }

end Poll

section Safety

variable {App : Type} {handlers : Handlers App}

/-- Handlers keep a PDU within `MB_PDU_SIZE_MAX`. -/
def Handlers.Bounded (handlers : Handlers App) : Prop :=
  ∀ code pxHandler, handlers code = some pxHandler → ∀ app pucFrame usLen,
    usLen ≤ mbPduSizeMax → (pxHandler app pucFrame usLen).usLen ≤ mbPduSizeMax

/-- The bytes of `ucRTUBuf` behind the address. -/
def pduRoom : Nat := mbSerPduSizeMax - mbSerPduPduOff

def HandlerResult.beyond (result : HandlerResult App) (outside : Memory U8) : HandlerResult App :=
  { result with pucFrame := result.pucFrame.beyond pduRoom outside }

/-- Handlers neither read nor write behind the end of `ucRTUBuf`. -/
def Handlers.Confined (handlers : Handlers App) : Prop :=
  ∀ code pxHandler, handlers code = some pxHandler → ∀ app pucFrame usLen outside,
    pxHandler app (pucFrame.beyond pduRoom outside) usLen =
      (pxHandler app pucFrame usLen).beyond outside

/-- What holds of the serial side in every reachable state: no index leaves the buffer, the
timer runs exactly while a frame or the first silence is awaited, and the two machines exclude
each other but for the end of a transmission. -/
structure SlaveRtu.Sound (rtu : SlaveRtu) : Prop where
  position : rtu.usRcvBufferPos ≤ mbSerPduSizeMax
  timer : rtu.timerRunning = true ↔ rtu.eRcvState ≠ .idle
  transmitter : rtu.txEnabled = true ↔ rtu.eSndState = .xmit ∧ rtu.softTransIrq ≠ .enabled
  receiver : rtu.rxEnabled = true ↔ rtu.eSndState = .idle ∨ rtu.softTransIrq = .enabled
  inside : rtu.softTransIrq ≠ .waits → rtu.eSndState = .xmit
  halfDuplex : rtu.eSndState = .xmit → rtu.softTransIrq ≠ .enabled → rtu.eRcvState = .idle
  cursor : rtu.eSndState = .xmit →
    rtu.pucSndBufferCur + rtu.usSndBufferCount ≤ mbSerPduSizeMax

structure SlaveNode.Sound (node : SlaveNode App) : Prop where
  rtu : node.rtu.Sound
  length : node.usLength ≤ mbPduSizeMax

variable {rtu : SlaveRtu}

/-- The states that a byte or a silence leaves to the thread of the transmitter. -/
theorem SlaveRtu.Sound.heard {rtu later : SlaveRtu} (sound : rtu.Sound)
    (position : later.usRcvBufferPos ≤ mbSerPduSizeMax)
    (timer : later.timerRunning = true ↔ later.eRcvState ≠ .idle)
    (halfDuplex : rtu.eSndState = .xmit → rtu.softTransIrq ≠ .enabled → later.eRcvState = .idle)
    (same : later.eSndState = rtu.eSndState ∧ later.softTransIrq = rtu.softTransIrq ∧
      later.txEnabled = rtu.txEnabled ∧ later.rxEnabled = rtu.rxEnabled ∧
      later.pucSndBufferCur = rtu.pucSndBufferCur ∧
      later.usSndBufferCount = rtu.usSndBufferCount) : later.Sound := by
  obtain ⟨state, place, tx, rx, current, count⟩ := same
  constructor
  · exact position
  · exact timer
  · rw [state, place, tx]
    exact sound.transmitter
  · rw [state, place, rx]
    exact sound.receiver
  · rw [state, place]
    exact sound.inside
  · rw [state, place]
    exact halfDuplex
  · rw [state, current, count]
    exact sound.cursor

theorem SlaveRtu.Sound.received (sound : rtu.Sound) (enabled : rtu.rxEnabled = true)
    (ucByte : U8) : (rtu.xMBRTUReceiveFSM ucByte).Sound := by
  have apart : ∀ later : SlaveRtu, rtu.eSndState = .xmit → rtu.softTransIrq ≠ .enabled →
      later.eRcvState = .idle := by
    intro later xmit place
    rcases sound.receiver.mp enabled with idle | same
    · rw [idle] at xmit
      cases xmit
    · exact absurd same place
  unfold SlaveRtu.xMBRTUReceiveFSM SlaveRtu.vMBPortTimersEnable
  cases state : rtu.eRcvState with
  | init =>
      refine sound.heard sound.position ?_ (apart _) ⟨rfl, rfl, rfl, rfl, rfl, rfl⟩
      simp
  | error =>
      refine sound.heard sound.position ?_ (apart _) ⟨rfl, rfl, rfl, rfl, rfl, rfl⟩
      simp
  | idle =>
      have first : 1 ≤ mbSerPduSizeMax := by decide
      refine sound.heard first ?_ (apart _) ⟨rfl, rfl, rfl, rfl, rfl, rfl⟩
      simp
  | rcv =>
      by_cases room : rtu.usRcvBufferPos < mbSerPduSizeMax
      · simp only [if_pos room]
        refine sound.heard room ?_ (apart _) ⟨rfl, rfl, rfl, rfl, rfl, rfl⟩
        simp
      · simp only [if_neg room]
        refine sound.heard sound.position ?_ (apart _) ⟨rfl, rfl, rfl, rfl, rfl, rfl⟩
        simp

theorem SlaveRtu.Sound.expired (sound : rtu.Sound) : rtu.xMBRTUTimerT35Expired.Sound := by
  rw [xMBRTUTimerT35Expired_eq]
  refine sound.heard sound.position ?_ (fun _ _ => rfl) ⟨rfl, rfl, rfl, rfl, rfl, rfl⟩
  simp

theorem SlaveRtu.Sound.transmitted (sound : rtu.Sound) : rtu.xMBRTUTransmitFSM.2.Sound := by
  obtain ⟨position, timer, transmitter, receiver, inside, halfDuplex, cursor⟩ := sound
  unfold SlaveRtu.xMBRTUTransmitFSM SlaveRtu.xMBPortEventPost SlaveRtu.vMBPortSerialEnable
  cases place : rtu.softTransIrq with
  | waits =>
      rw [place] at transmitter receiver inside halfDuplex
      cases state : rtu.eSndState with
      | idle =>
          exact ⟨position, timer, by simp, by simp, by simp, by simp, by simp⟩
      | xmit =>
          rw [state] at transmitter receiver halfDuplex
          by_cases more : rtu.usSndBufferCount ≠ 0
          · simp only [if_pos more]
            have bound := cursor state
            refine ⟨position, timer, ?_, ?_, fun _ => rfl, ?_, fun _ => ?_⟩
            · simpa [place, state] using transmitter
            · simpa [place, state] using receiver
            · exact fun _ _ => halfDuplex rfl (by simp)
            · simp only
              omega
          · simp only [if_neg more]
            refine ⟨position, timer, ?_, ?_, fun _ => rfl, ?_, fun _ => cursor state⟩
            · simpa [state] using transmitter
            · simpa [state] using receiver
            · exact fun _ _ => halfDuplex rfl (by simp)
  | posted =>
      have xmit : rtu.eSndState = .xmit := inside (by simp [place])
      exact ⟨position, timer, by simp, by simp, fun _ => xmit, by simp, cursor⟩
  | enabled =>
      have on : rtu.rxEnabled = true := receiver.mpr (.inr place)
      have off : rtu.txEnabled ≠ true := fun tx => (transmitter.mp tx).2 place
      refine ⟨position, timer, ?_, ?_, by simp, by simp, by simp⟩
      · simpa using off
      · simpa using on

theorem SlaveRtu.Sound.withEvents (sound : rtu.Sound) (osEvent : SlaveOsEvent) :
    { rtu with xSlaveOsEvent := osEvent }.Sound :=
  ⟨sound.position, sound.timer, sound.transmitter, sound.receiver, sound.inside, sound.halfDuplex,
    sound.cursor⟩

theorem SlaveRtu.Sound.withBuffer (sound : rtu.Sound) (buffer : Memory U8) :
    { rtu with ucRTUBuf := buffer }.Sound :=
  ⟨sound.position, sound.timer, sound.transmitter, sound.receiver, sound.inside, sound.halfDuplex,
    sound.cursor⟩

theorem SlaveRtu.Sound.sent (sound : rtu.Sound) (place : rtu.softTransIrq = .waits)
    {ucSlaveAddress : U8} {usLength : Nat} {sending : SlaveRtu} (short : usLength ≤ mbPduSizeMax)
    (sent : rtu.eMBRTUSend ucSlaveAddress mbSerPduPduOff usLength = some sending) :
    sending.Sound := by
  have idle : rtu.eRcvState = .idle := by
    refine Classical.byContradiction fun busy => ?_
    rw [SlaveRtu.eMBRTUSend, if_neg busy] at sent
    cases sent
  rw [eMBRTUSend_eq idle] at sent
  cases sent
  refine ⟨sound.position, sound.timer, ?_, ?_, fun _ => rfl, fun _ _ => idle, fun _ => ?_⟩
  · simp [place]
  · simp [place]
  · simp only [mbPduSizeMax, mbSerPduSizeMax] at short ⊢
    omega

theorem dispatch_bounded (bounded : handlers.Bounded) (app : App) (ucMBFrame : Memory U8)
    {usLength : Nat} (short : usLength ≤ mbPduSizeMax) :
    (dispatch handlers app ucMBFrame usLength).usLen ≤ mbPduSizeMax := by
  unfold dispatch
  cases found : handlers (ucMBFrame 0) with
  | none => exact short
  | some pxHandler => exact bounded _ _ found _ _ _ short

theorem execute_bounded (bounded : handlers.Bounded) (ucRcvAddress : U8) (app : App)
    (buffer : Memory U8) {usLength : Nat} (short : usLength ≤ mbPduSizeMax) :
    (execute handlers ucRcvAddress app buffer usLength).usLength ≤ mbPduSizeMax := by
  have handled := dispatch_bounded bounded app (pduOf buffer) short
  have two : 2 ≤ mbPduSizeMax := by decide
  unfold execute
  simp only
  split
  · split
    · exact two
    · exact handled
  · exact handled

theorem SlaveNode.Sound.polled {node : SlaveNode App} (bounded : handlers.Bounded)
    (sound : node.Sound) (place : node.rtu.softTransIrq = .waits) (eEvent : SlaveEvent) :
    (eMBPoll handlers node eEvent).Sound := by
  cases eEvent with
  | ready => exact sound
  | frameSent => exact sound
  | frameReceived =>
      unfold eMBPoll
      simp only
      cases taken : node.rtu.eMBRTUReceive with
      | none => exact sound
      | some received =>
          have short : received.usLength ≤ mbPduSizeMax := by
            have position := (receiveFrom_iff.mp taken).2.1
            have limit := sound.rtu.position
            simp only [mbPduSizeMax, mbSerPduSizeMax] at limit ⊢
            omega
          simp only
          split
          · exact ⟨sound.rtu.withEvents _, short⟩
          · exact ⟨sound.rtu, short⟩
  | execute =>
      have short := execute_bounded bounded node.ucRcvAddress node.app node.rtu.ucRTUBuf
        sound.length
      have buffered := sound.rtu.withBuffer
        (execute handlers node.ucRcvAddress node.app node.rtu.ucRTUBuf node.usLength).buffer
      unfold eMBPoll SlaveNode.answer
      simp only
      split
      · cases sent : SlaveRtu.eMBRTUSend _ node.ucMBAddress mbSerPduPduOff _ with
        | none => exact ⟨buffered, short⟩
        | some sending => exact ⟨buffered.sent place short sent, short⟩
      · exact ⟨buffered, short⟩

theorem SlaveNode.Sound.polledWith {node : SlaveNode App} (bounded : handlers.Bounded)
    (sound : node.Sound) (place : node.rtu.softTransIrq = .waits) (recvedEvent : U32)
    (stale : Option SlaveEvent) : (polledWith handlers node recvedEvent stale).Sound := by
  unfold Rtu.polledWith
  split
  · exact sound
  · exact sound.polled bounded place _

theorem SlaveNode.Sound.waits {node : SlaveNode App} (sound : node.Sound) : node.waits.Sound :=
  ⟨sound.rtu.withEvents _, sound.length⟩

/-- The state behind `eMBEnable`, whatever the statics held before, with the thread in its
first poll. -/
def SlaveLine.start (ucMBAddress : U8) (buffer : Memory U8) (app : App) : SlaveLine App :=
  let rtu : SlaveRtu :=
    { eSndState := .idle
      eRcvState := .init
      ucRTUBuf := buffer
      pucSndBufferCur := 0
      usSndBufferCount := 0
      usRcvBufferPos := 0
      rxEnabled := false
      txEnabled := false
      timerRunning := false
      xSlaveOsEvent := .quiet
      softTransIrq := .waits }
  { node :=
      { ucMBAddress := ucMBAddress
        ucRcvAddress := 0
        usLength := 0
        rtu := rtu.eMBRTUStart
        app := app }
    sent := [] }

theorem SlaveLine.start_sound (ucMBAddress : U8) (buffer : Memory U8) (app : App) :
    (SlaveLine.start ucMBAddress buffer app).node.Sound := by
  refine ⟨⟨Nat.zero_le _, ?_, ?_, ?_, ?_, ?_, ?_⟩, Nat.zero_le _⟩ <;>
    simp [SlaveLine.start, SlaveRtu.eMBRTUStart, SlaveRtu.vMBPortSerialEnable,
      SlaveRtu.vMBPortTimersEnable]

/-- A step of the line with the guard that let it happen. -/
inductive SlaveLine.Transition (handlers : Handlers App) (line : SlaveLine App) :
    SlaveLabel App → SlaveLine App → Prop
  | received {ucByte} (enabled : line.node.rtu.rxEnabled = true) :
      Transition handlers line (.received ucByte)
        (line.withRtu (line.node.rtu.xMBRTUReceiveFSM ucByte))
  | t35 (running : line.node.rtu.timerRunning = true) :
      Transition handlers line .t35 (line.withRtu line.node.rtu.xMBRTUTimerT35Expired)
  | transmit (enabled : line.node.rtu.softTransIrq ≠ .waits ∨ line.node.rtu.txEnabled = true) :
      Transition handlers line .transmit
        { line.withRtu line.node.rtu.xMBRTUTransmitFSM.2 with
          sent := line.sent ++ line.node.rtu.xMBRTUTransmitFSM.1.toList }
  | poll {stale recvedEvent} (place : line.node.rtu.softTransIrq = .waits)
      (given : line.node.rtu.xSlaveOsEvent.recvedEvent = some recvedEvent) :
      Transition handlers line (.poll stale)
        { line with node := (polledWith handlers line.node recvedEvent stale).waits }
  | update {change} :
      Transition handlers line (.update change)
        { line with node := { line.node with app := change line.node.app } }

theorem SlaveLine.transition {line next : SlaveLine App} {label : SlaveLabel App}
    (stepped : line.step handlers label = some next) : line.Transition handlers label next := by
  cases label with
  | received ucByte =>
      obtain ⟨enabled, same⟩ := Option.ite_none_right_eq_some.mp stepped
      cases Option.some.inj same
      exact .received enabled
  | t35 =>
      obtain ⟨running, same⟩ := Option.ite_none_right_eq_some.mp stepped
      cases Option.some.inj same
      exact .t35 running
  | transmit =>
      obtain ⟨enabled, same⟩ := Option.ite_none_right_eq_some.mp stepped
      cases Option.some.inj same
      exact .transmit enabled
  | poll stale =>
      obtain ⟨place, polled⟩ := Option.ite_none_right_eq_some.mp stepped
      obtain ⟨recvedEvent, given, rfl⟩ := Option.map_eq_some_iff.mp polled
      exact .poll place given
  | update change =>
      cases Option.some.inj stepped
      exact .update

theorem SlaveLine.step_sound (bounded : handlers.Bounded) {line next : SlaveLine App}
    {label : SlaveLabel App} (sound : line.node.Sound)
    (stepped : line.step handlers label = some next) : next.node.Sound := by
  cases SlaveLine.transition stepped with
  | received enabled => exact ⟨sound.rtu.received enabled _, sound.length⟩
  | t35 running => exact ⟨sound.rtu.expired, sound.length⟩
  | transmit enabled => exact ⟨sound.rtu.transmitted, sound.length⟩
  | poll place given => exact (sound.polledWith bounded place _ _).waits
  | update => exact ⟨sound.rtu, sound.length⟩

end Safety

end ZhuoduControl.Modbus.Rtu
