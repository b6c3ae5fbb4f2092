import ZhuoduControl.Modbus.SlaveFunctions

/-! The assertions of the slave's serial side and the bounds of its buffer, in every order
of interrupts and steps of the threads. -/

set_option autoImplicit false

namespace ZhuoduControl.Modbus.Rtu

open ZhuoduControl.Library
open ZhuoduControl.Data

variable {App : Type}

/-- The poll takes the event of a received frame. -/
def SlaveLine.TakesFrame (line : SlaveLine App) (stale : Option SlaveEvent) : Prop :=
  (line.node.rtu.xSlaveOsEvent.recvedEvent.bind fun recvedEvent =>
    (SlaveEvent.ofBits recvedEvent).or stale) = some .frameReceived

/-- The `assert_param` of the function that a step calls or, for the transmitter, begins. -/
def SlaveLine.Asserted (line : SlaveLine App) : SlaveLabel App → Prop
  | .received _ => line.node.rtu.eSndState = .idle
  | .t35 => line.node.rtu.eRcvState ≠ .idle
  | .transmit => line.node.rtu.softTransIrq = .waits → line.node.rtu.eRcvState = .idle
  | .poll stale => line.TakesFrame stale → line.node.rtu.usRcvBufferPos < mbSerPduSizeMax
  | .update _ => True

/-- No byte comes between the end of a transmission and `STATE_TX_IDLE`, and no frame is taken
while the buffer is full to its last byte. -/
def SlaveLine.InTime (line : SlaveLine App) : SlaveLabel App → Prop
  | .received _ => line.node.rtu.softTransIrq ≠ .enabled
  | .poll stale => line.TakesFrame stale → line.node.rtu.usRcvBufferPos ≠ mbSerPduSizeMax
  | .t35 => True
  | .transmit => True
  | .update _ => True

/-- The same state with other bytes behind the end of `ucRTUBuf`. -/
def SlaveRtu.beyond (rtu : SlaveRtu) (outside : Memory U8) : SlaveRtu :=
  { rtu with ucRTUBuf := rtu.ucRTUBuf.beyond mbSerPduSizeMax outside }

def SlaveNode.beyond (node : SlaveNode App) (outside : Memory U8) : SlaveNode App :=
  { node with rtu := node.rtu.beyond outside }

def SlaveLine.beyond (line : SlaveLine App) (outside : Memory U8) : SlaveLine App :=
  { line with node := line.node.beyond outside }

/-- What stands behind the end of `ucRTUBuf` is neither read nor written. -/
def SlaveLine.InBuffer (handlers : Handlers App) (before : SlaveLine App) (label : SlaveLabel App)
    (after : SlaveLine App) : Prop :=
  ∀ outside, (before.beyond outside).step handlers label = some (after.beyond outside)

section Confinement

variable {handlers : Handlers App} {rtu : SlaveRtu} {outside buffer : Memory U8}

theorem xMBRTUReceiveFSM_beyond (ucByte : U8) :
    (rtu.beyond outside).xMBRTUReceiveFSM ucByte =
      (rtu.xMBRTUReceiveFSM ucByte).beyond outside := by
  obtain ⟨_, eRcvState, _, _, _, usRcvBufferPos⟩ := rtu
  cases eRcvState with
  | init => rfl
  | error => rfl
  | idle =>
      have first : 0 < mbSerPduSizeMax := by decide
      simp only [SlaveRtu.xMBRTUReceiveFSM, SlaveRtu.beyond, Memory.beyond_set first]
      rfl
  | rcv =>
      simp only [SlaveRtu.xMBRTUReceiveFSM, SlaveRtu.beyond]
      by_cases room : usRcvBufferPos < mbSerPduSizeMax
      · simp only [if_pos room, Memory.beyond_set room]
        rfl
      · simp only [if_neg room]
        exact if_neg room

theorem xMBRTUTimerT35Expired_beyond :
    (rtu.beyond outside).xMBRTUTimerT35Expired = rtu.xMBRTUTimerT35Expired.beyond outside := by
  rw [xMBRTUTimerT35Expired_eq, xMBRTUTimerT35Expired_eq]
  rfl

/-- The byte that goes out is one of the buffer. -/
theorem xMBRTUTransmitFSM_beyond (sound : rtu.Sound) :
    (rtu.beyond outside).xMBRTUTransmitFSM =
      (rtu.xMBRTUTransmitFSM.1, rtu.xMBRTUTransmitFSM.2.beyond outside) := by
  have cursor := sound.cursor
  obtain ⟨eSndState, _, _, pucSndBufferCur, usSndBufferCount, _, _, _, _, _, softTransIrq⟩ := rtu
  cases softTransIrq with
  | posted => rfl
  | enabled => rfl
  | waits =>
      cases eSndState with
      | idle => rfl
      | xmit =>
          have bound : pucSndBufferCur + usSndBufferCount ≤ mbSerPduSizeMax := cursor rfl
          simp only [SlaveRtu.xMBRTUTransmitFSM, SlaveRtu.beyond]
          by_cases more : usSndBufferCount ≠ 0
          · have within : pucSndBufferCur < mbSerPduSizeMax := by omega
            simp only [if_pos more, Memory.beyond_inside within]
          · simp only [if_neg more]
            exact if_neg more

theorem eMBRTUReceive_beyond (sound : rtu.Sound) :
    (rtu.beyond outside).eMBRTUReceive = rtu.eMBRTUReceive := by
  have first : mbSerPduAddrOff < mbSerPduSizeMax := by decide
  have whole : 0 + rtu.usRcvBufferPos ≤ mbSerPduSizeMax :=
    (Nat.zero_add _).symm ▸ sound.position
  simp only [SlaveRtu.eMBRTUReceive, receiveFrom, SlaveRtu.beyond, Memory.beyond_load whole,
    Memory.beyond_inside first]

theorem build_beyond (ucSlaveAddress : U8) {usLength : Nat} (short : usLength ≤ mbPduSizeMax) :
    build (buffer.beyond mbSerPduSizeMax outside) ucSlaveAddress usLength =
      (build buffer ucSlaveAddress usLength).beyond mbSerPduSizeMax outside := by
  have limit : mbPduSizeMax + 3 = mbSerPduSizeMax := rfl
  have first : mbSerPduAddrOff < mbSerPduSizeMax := by decide
  have body : 0 + (1 + usLength) ≤ mbSerPduSizeMax := by omega
  have low : 1 + usLength < mbSerPduSizeMax := by omega
  have high : 1 + usLength + 1 < mbSerPduSizeMax := by omega
  unfold build
  simp only [Memory.beyond_set first, Memory.beyond_load body, Memory.beyond_set low,
    Memory.beyond_set high]

theorem eMBRTUSend_beyond (ucSlaveAddress : U8) {usLength : Nat} (short : usLength ≤ mbPduSizeMax) :
    (rtu.beyond outside).eMBRTUSend ucSlaveAddress mbSerPduPduOff usLength =
      (rtu.eMBRTUSend ucSlaveAddress mbSerPduPduOff usLength).map (·.beyond outside) := by
  by_cases idle : rtu.eRcvState = .idle
  · rw [eMBRTUSend_eq idle, @eMBRTUSend_eq (rtu.beyond outside) _ _ idle]
    simp only [SlaveRtu.beyond, build_beyond ucSlaveAddress short, Option.map_some]
  · have refused : rtu.eMBRTUSend ucSlaveAddress mbSerPduPduOff usLength = none := if_neg idle
    rw [refused]
    exact if_neg idle

theorem dispatch_beyond (confined : handlers.Confined) (app : App) (ucMBFrame : Memory U8)
    (usLength : Nat) :
    dispatch handlers app (ucMBFrame.beyond pduRoom outside) usLength =
      (dispatch handlers app ucMBFrame usLength).beyond outside := by
  unfold dispatch
  rw [Memory.beyond_inside (by decide)]
  cases found : handlers (ucMBFrame 0) with
  | none => rfl
  | some pxHandler => exact confined _ _ found ..

def Executed.beyond (executed : Executed App) (outside : Memory U8) : Executed App :=
  { executed with buffer := executed.buffer.beyond mbSerPduSizeMax outside }

theorem execute_beyond (confined : handlers.Confined) (ucRcvAddress : U8) (app : App)
    (usLength : Nat) :
    execute handlers ucRcvAddress app (buffer.beyond mbSerPduSizeMax outside) usLength =
      (execute handlers ucRcvAddress app buffer usLength).beyond outside := by
  have address : mbSerPduPduOff ≤ mbSerPduSizeMax := by decide
  have frame : pduOf (buffer.beyond mbSerPduSizeMax outside) =
      (pduOf buffer).beyond pduRoom (outside.part mbSerPduPduOff) := Memory.part_beyond address
  have code : (pduOf buffer).beyond pduRoom (outside.part mbSerPduPduOff) 0 = pduOf buffer 0 :=
    Memory.beyond_inside (by decide)
  have answered : ∀ pdu : Memory U8,
      withPdu (buffer.beyond mbSerPduSizeMax outside)
          (pdu.beyond pduRoom (outside.part mbSerPduPduOff)) =
        (withPdu buffer pdu).beyond mbSerPduSizeMax outside :=
    Memory.withPart_beyond address
  have first : 0 < pduRoom := by decide
  have second : 1 < pduRoom := by decide
  unfold execute
  simp only [frame, code, dispatch_beyond confined, HandlerResult.beyond, Memory.beyond_set first,
    Memory.beyond_set second, answered]
  split
  · split
    · rfl
    · rfl
  · rfl

theorem answer_beyond (node : SlaveNode App) {executed : Executed App}
    (short : executed.usLength ≤ mbPduSizeMax) :
    (node.beyond outside).answer (executed.beyond outside) =
      (node.answer executed).beyond outside := by
  obtain ⟨app, buffer, usLength, replies⟩ := executed
  cases replies with
  | false => rfl
  | true =>
      have sent := @eMBRTUSend_beyond { node.rtu with ucRTUBuf := buffer } outside
        node.ucMBAddress _ short
      refine (congrArg (Option.elim · _ _) sent).trans ?_
      simp only [SlaveNode.answer, if_true]
      cases SlaveRtu.eMBRTUSend { node.rtu with ucRTUBuf := buffer } node.ucMBAddress
          mbSerPduPduOff usLength with
      | none => rfl
      | some sending => rfl

theorem eMBPoll_beyond (bounded : handlers.Bounded) (confined : handlers.Confined)
    {node : SlaveNode App} (sound : node.Sound) (eEvent : SlaveEvent) :
    eMBPoll handlers (node.beyond outside) eEvent = (eMBPoll handlers node eEvent).beyond outside := by
  cases eEvent with
  | ready => rfl
  | frameSent => rfl
  | frameReceived =>
      have receive : (node.beyond outside).rtu.eMBRTUReceive = node.rtu.eMBRTUReceive :=
        eMBRTUReceive_beyond sound.rtu
      simp only [eMBPoll, receive]
      cases node.rtu.eMBRTUReceive with
      | none => rfl
      | some received =>
          simp only
          by_cases addressed : received.ucRcvAddress = node.ucMBAddress ∨
              received.ucRcvAddress = mbAddressBroadcast
          · rw [if_pos addressed]
            exact if_pos addressed
          · rw [if_neg addressed]
            exact if_neg addressed
  | execute =>
      have short := execute_bounded bounded node.ucRcvAddress node.app node.rtu.ucRTUBuf
        sound.length
      have same := @execute_beyond _ _ outside node.rtu.ucRTUBuf confined node.ucRcvAddress node.app
        node.usLength
      exact (congrArg (node.beyond outside).answer same).trans (answer_beyond node short)

/-- No step leaves the buffer. -/
theorem step_inBuffer (bounded : handlers.Bounded) (confined : handlers.Confined)
    {line next : SlaveLine App} {label : SlaveLabel App} (sound : line.node.Sound)
    (stepped : line.step handlers label = some next) : line.InBuffer handlers label next := by
  intro outside
  cases SlaveLine.transition stepped with
  | received enabled =>
      refine (if_pos enabled).trans (congrArg some ?_)
      exact congrArg (line.beyond outside).withRtu (xMBRTUReceiveFSM_beyond _)
  | t35 running =>
      refine (if_pos running).trans (congrArg some ?_)
      exact congrArg (line.beyond outside).withRtu xMBRTUTimerT35Expired_beyond
  | transmit enabled =>
      refine (if_pos enabled).trans ?_
      exact congrArg (fun step : Option U8 × SlaveRtu =>
        some { (line.beyond outside).withRtu step.2 with sent := line.sent ++ step.1.toList })
        (xMBRTUTransmitFSM_beyond sound.rtu)
  | @poll stale recvedEvent place given =>
      have polled : polledWith handlers (line.node.beyond outside) recvedEvent stale =
          (polledWith handlers line.node recvedEvent stale).beyond outside := by
        unfold polledWith
        split
        · rfl
        · exact eMBPoll_beyond bounded confined sound _
      refine (if_pos place).trans (Option.map_eq_some_iff.mpr ⟨recvedEvent, given, ?_⟩)
      rw [SlaveLine.beyond, polled]
      rfl
  | update => rfl

/-- The assertions of the two machines hold of a step in time, and of no other. -/
theorem step_asserted_iff {line next : SlaveLine App} {label : SlaveLabel App}
    (sound : line.node.Sound) (stepped : line.step handlers label = some next) :
    line.Asserted label ↔ line.InTime label := by
  cases SlaveLine.transition stepped with
  | received enabled =>
      constructor
      · intro idle place
        have xmit := sound.rtu.inside (place ▸ fun same => SoftTransIrq.noConfusion same)
        rw [SlaveLine.Asserted, xmit] at idle
        cases idle
      · intro later
        exact (sound.rtu.receiver.mp enabled).resolve_right later
  | t35 running => exact iff_of_true (sound.rtu.timer.mp running) trivial
  | transmit enabled =>
      refine iff_of_true (fun place => ?_) trivial
      have asked := enabled.resolve_left fun inside => inside place
      obtain ⟨xmit, before⟩ := sound.rtu.transmitter.mp asked
      exact sound.rtu.halfDuplex xmit before
  | poll place given =>
      refine forall_congr' fun _ => ?_
      have position := sound.rtu.position
      exact ⟨Nat.ne_of_lt, fun free => Nat.lt_of_le_of_ne position free⟩
  | update => exact Iff.rfl

end Confinement

/-- In every order of bytes, silences, steps of the transmitter, polls and changes of the data by
other threads no step of the slave reads or writes behind its buffer, and its assertions hold up
to the first byte before the end of a transmission is noted or the first poll that takes a frame
while the buffer is full to the last byte. -/
theorem slave_asserted_iff (ucMBAddress : U8) (buffer : Memory U8) (data : Functions.SlaveData)
    (labels : List (SlaveLabel Functions.SlaveData)) :
    Run.AllSteps (SlaveLine.step Functions.slaveHandlers)
        (SlaveLine.InBuffer Functions.slaveHandlers) (.start ucMBAddress buffer data) labels ∧
      (Run.AllSteps (SlaveLine.step Functions.slaveHandlers)
          (fun before label _ => before.Asserted label) (.start ucMBAddress buffer data) labels ↔
        Run.AllSteps (SlaveLine.step Functions.slaveHandlers)
          (fun before label _ => before.InTime label) (.start ucMBAddress buffer data) labels) := by
  have bounded := Functions.slaveHandlers_bounded
  have begun := SlaveLine.start_sound ucMBAddress buffer data
  constructor
  · exact Run.allSteps_of_step (fun before label after sound stepped =>
      ⟨SlaveLine.step_sound bounded sound stepped,
        step_inBuffer bounded Functions.slaveHandlers_confined sound stepped⟩) labels begun
  · exact Run.allSteps_iff_of_invariant (fun before label after sound stepped =>
        SlaveLine.step_sound bounded sound stepped)
      (fun before label after sound stepped => step_asserted_iff sound stepped) labels begun

end ZhuoduControl.Modbus.Rtu
