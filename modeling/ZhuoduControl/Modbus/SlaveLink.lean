import ZhuoduControl.Modbus.SlaveNode

/-! The slave seen from the line: as long as its thread keeps up with the line, each frame
takes effect at one instant, in the order of the line, and is answered once. -/

set_option autoImplicit false

namespace ZhuoduControl.Modbus.Rtu

open ZhuoduControl.Library
open ZhuoduControl.Data

variable {App : Type}

/-- What the line has carried: the byte sequences between two silences, and the bytes
since the last one. -/
structure Heard where
  complete : List (List U8)
  current : List U8

def Heard.hear (heard : Heard) : SlaveLabel App → Heard
  | .received ucByte => { heard with current := heard.current ++ [ucByte] }
  | .t35 => ⟨heard.complete ++ [heard.current], []⟩
  | .transmit => heard
  | .poll _ => heard
  | .update _ => heard

def heard (labels : List (SlaveLabel App)) : Heard := labels.foldl Heard.hear ⟨[], []⟩

/-- The sequences behind the first silence. -/
def segments (labels : List (SlaveLabel App)) : List (List U8) := (heard labels).complete.tail

def updates (labels : List (SlaveLabel App)) : List (App → App) :=
  labels.filterMap fun
    | .update change => some change
    | _ => none

/-- The slave as a server of whole frames. -/
structure Server (App : Type) where
  app : App
  buffer : Memory U8
  answers : List U8

inductive Input (App : Type)
  | frame (bytes : List U8)
  | update (change : App → App)

def Input.frame? : Input App → Option (List U8)
  | .frame bytes => some bytes
  | .update _ => none

def Input.update? : Input App → Option (App → App)
  | .frame _ => none
  | .update change => some change

/-- A frame that is accepted and addressed to the slave is executed and, unless it is a
broadcast, answered. -/
def Server.execute (handlers : Handlers App) (ucMBAddress : U8) (server : Server App)
    (received : Received) : Server App :=
  let executed := Rtu.execute handlers received.ucRcvAddress server.app server.buffer
    received.usLength
  if executed.replies then
    { app := executed.app
      buffer := build executed.buffer ucMBAddress executed.usLength
      answers := server.answers ++
        frame ucMBAddress (executed.buffer.load mbSerPduPduOff executed.usLength) }
  else
    { server with app := executed.app, buffer := executed.buffer }

def Server.serve (handlers : Handlers App) (ucMBAddress : U8) (server : Server App) :
    Input App → Server App
  | .update change => { server with app := change server.app }
  | .frame bytes =>
      let stored := { server with
        buffer := server.buffer.store 0 (bytes.take mbSerPduSizeMax) }
      if bytes.length ≤ mbSerPduSizeMax then
        match receiveFrom stored.buffer bytes.length with
        | none => stored
        | some received =>
            if received.ucRcvAddress = ucMBAddress ∨
                received.ucRcvAddress = mbAddressBroadcast then
              stored.execute handlers ucMBAddress received
            else
              stored
      else
        stored

def serveAll (handlers : Handlers App) (ucMBAddress : U8) (server : Server App)
    (inputs : List (Input App)) : Server App :=
  inputs.foldl (Server.serve handlers ucMBAddress) server

/-- The threads have taken the last frame and ended the last transmission before the next byte
comes, and have taken every event before the line falls silent. -/
def KeepsUp (line : SlaveLine App) : SlaveLabel App → Prop
  | .received _ =>
      line.node.rtu.xSlaveOsEvent.awaits .frameReceived = false ∧
        line.node.rtu.xSlaveOsEvent.awaits .execute = false ∧
        line.node.rtu.softTransIrq ≠ .enabled
  | .t35 => line.node.rtu.xSlaveOsEvent = .quiet
  | .transmit => True
  | .poll _ => True
  | .update _ => True

instance (line : SlaveLine App) : ∀ label, Decidable (KeepsUp line label)
  | .received _ => inferInstanceAs (Decidable (_ ∧ _ ∧ _))
  | .t35 => inferInstanceAs (Decidable (_ = _))
  | .transmit => .isTrue trivial
  | .poll _ => .isTrue trivial
  | .update _ => .isTrue trivial

section Phases

variable (handlers : Handlers App) (ucMBAddress : U8) (initial : Server App)

/-- What the serial side holds of the bytes since the last silence. -/
inductive Reception (rtu : SlaveRtu) : List U8 → Prop
  | idle (state : rtu.eRcvState = .idle) : Reception rtu []
  | rcv {current} (state : rtu.eRcvState = .rcv) (position : rtu.usRcvBufferPos = current.length)
      (short : current.length ≤ mbSerPduSizeMax) : Reception rtu current
  | error {current} (state : rtu.eRcvState = .error)
      (long : mbSerPduSizeMax < current.length) : Reception rtu current

/-- No frame waits for the thread. -/
def Settled (osEvent : SlaveOsEvent) : Prop :=
  osEvent = .quiet ∨ osEvent = .pending .ready ∨ osEvent = .pending .frameSent

/-- The server has the data and has given the answers of the slave. -/
structure Agrees (server : Server App) (line : SlaveLine App) : Prop where
  app : line.node.app = server.app
  sent : line.sent = server.answers
  silent : line.node.rtu.eSndState = .idle

/-- Where the slave stands between the line and the server that has been given `inputs`. -/
inductive Phase (heard : Heard) (inputs : List (Input App)) (line : SlaveLine App) : Prop
  | startup (agrees : Agrees (serveAll handlers ucMBAddress initial inputs) line)
      (buffer : line.node.rtu.ucRTUBuf = (serveAll handlers ucMBAddress initial inputs).buffer)
      (state : line.node.rtu.eRcvState = .init) (events : line.node.rtu.xSlaveOsEvent = .quiet)
      (complete : heard.complete = []) (frames : inputs.filterMap Input.frame? = [])
  | listening (agrees : Agrees (serveAll handlers ucMBAddress initial inputs) line)
      (buffer : line.node.rtu.ucRTUBuf =
        (serveAll handlers ucMBAddress initial inputs).buffer.store 0
          (heard.current.take mbSerPduSizeMax))
      (reception : Reception line.node.rtu heard.current)
      (events : Settled line.node.rtu.xSlaveOsEvent)
      (complete : heard.complete ≠ [])
      (frames : heard.complete.tail = inputs.filterMap Input.frame?)
  | received {last : List U8} (agrees : Agrees (serveAll handlers ucMBAddress initial inputs) line)
      (buffer : line.node.rtu.ucRTUBuf =
        (serveAll handlers ucMBAddress initial inputs).buffer.store 0 last)
      (state : line.node.rtu.eRcvState = .idle)
      (position : line.node.rtu.usRcvBufferPos = last.length)
      (short : last.length ≤ mbSerPduSizeMax)
      (events : line.node.rtu.xSlaveOsEvent = .pending .frameReceived)
      (current : heard.current = []) (complete : heard.complete ≠ [])
      (frames : heard.complete.tail = inputs.filterMap Input.frame? ++ [last])
  | executing {last : List U8} {received : Received}
      (agrees : Agrees (serveAll handlers ucMBAddress initial inputs) line)
      (buffer : line.node.rtu.ucRTUBuf =
        (serveAll handlers ucMBAddress initial inputs).buffer.store 0 last)
      (state : line.node.rtu.eRcvState = .idle)
      (taken : receiveFrom line.node.rtu.ucRTUBuf last.length = some received)
      (short : last.length ≤ mbSerPduSizeMax)
      (addressed : received.ucRcvAddress = ucMBAddress ∨
        received.ucRcvAddress = mbAddressBroadcast)
      (address : line.node.ucRcvAddress = received.ucRcvAddress)
      (length : line.node.usLength = received.usLength)
      (events : line.node.rtu.xSlaveOsEvent = .pending .execute)
      (current : heard.current = []) (complete : heard.complete ≠ [])
      (frames : heard.complete.tail = inputs.filterMap Input.frame? ++ [last])
  | sending (app : line.node.app = (serveAll handlers ucMBAddress initial inputs).app)
      (sent : line.sent ++ line.node.rtu.queued =
        (serveAll handlers ucMBAddress initial inputs).answers)
      (buffer : line.node.rtu.ucRTUBuf = (serveAll handlers ucMBAddress initial inputs).buffer)
      (state : line.node.rtu.eRcvState = .idle) (xmit : line.node.rtu.eSndState = .xmit)
      (place : line.node.rtu.softTransIrq = .waits)
      (events : line.node.rtu.xSlaveOsEvent = .quiet)
      (current : heard.current = []) (complete : heard.complete ≠ [])
      (frames : heard.complete.tail = inputs.filterMap Input.frame?)
  | ending (app : line.node.app = (serveAll handlers ucMBAddress initial inputs).app)
      (sent : line.sent = (serveAll handlers ucMBAddress initial inputs).answers)
      (buffer : line.node.rtu.ucRTUBuf = (serveAll handlers ucMBAddress initial inputs).buffer)
      (state : line.node.rtu.eRcvState = .idle) (xmit : line.node.rtu.eSndState = .xmit)
      (place : line.node.rtu.softTransIrq ≠ .waits)
      (events : line.node.rtu.xSlaveOsEvent = .pending .frameSent)
      (current : heard.current = []) (complete : heard.complete ≠ [])
      (frames : heard.complete.tail = inputs.filterMap Input.frame?)

end Phases

section Steps

variable {handlers : Handlers App} {ucMBAddress : U8} {initial : Server App}
variable {heard : Heard} {inputs : List (Input App)} {line next : SlaveLine App}
variable {label : SlaveLabel App}

theorem serveAll_append (input : Input App) :
    serveAll handlers ucMBAddress initial (inputs ++ [input]) =
      (serveAll handlers ucMBAddress initial inputs).serve handlers ucMBAddress input := by
  simp [serveAll]

theorem store_concat (memory : Memory U8) (bytes : List U8) (ucByte : U8) :
    memory.store 0 (bytes ++ [ucByte]) = (memory.store 0 bytes).set bytes.length ucByte := by
  have split : ∀ (address : Nat) (front : List U8),
      Memory.block address (front ++ [ucByte]) =
        Memory.block address front ++ [(address + front.length, ucByte)] := by
    intro address front
    induction front generalizing address with
    | nil => rfl
    | cons byte rest ih =>
        have place : address + 1 + rest.length = address + (byte :: rest).length := by
          rw [List.length_cons]
          omega
        rw [List.cons_append, Memory.block_cons, ih, Memory.block_cons, place, List.cons_append]
  rw [Memory.store, split, Memory.setAll_append, Nat.zero_add]
  rfl

/-- The receiver keeps the first 256 bytes since the silence. -/
theorem Reception.received {rtu : SlaveRtu} {current : List U8} {memory : Memory U8}
    (reception : Reception rtu current)
    (buffer : rtu.ucRTUBuf = memory.store 0 (current.take mbSerPduSizeMax)) (ucByte : U8) :
    Reception (rtu.xMBRTUReceiveFSM ucByte) (current ++ [ucByte]) ∧
      (rtu.xMBRTUReceiveFSM ucByte).ucRTUBuf =
        memory.store 0 ((current ++ [ucByte]).take mbSerPduSizeMax) := by
  cases reception with
  | idle state =>
      unfold SlaveRtu.xMBRTUReceiveFSM
      simp only [state]
      refine ⟨.rcv rfl rfl (show 1 ≤ mbSerPduSizeMax by decide), ?_⟩
      have one : List.take mbSerPduSizeMax ([] ++ [ucByte]) = [ucByte] := rfl
      rw [one]
      exact congrArg (fun cells => Memory.set cells 0 ucByte) buffer
  | rcv state position short =>
      unfold SlaveRtu.xMBRTUReceiveFSM
      simp only [state]
      by_cases room : rtu.usRcvBufferPos < mbSerPduSizeMax
      · rw [if_pos room]
        have longer : (current ++ [ucByte]).length ≤ mbSerPduSizeMax := by
          rw [List.length_append, ← position]
          exact room
        refine ⟨.rcv rfl ?_ longer, ?_⟩
        · rw [List.length_append, ← position]
          rfl
        · rw [List.take_of_length_le longer, store_concat, ← position]
          rw [List.take_of_length_le short] at buffer
          exact congrArg (fun cells => Memory.set cells _ ucByte) buffer
      · rw [if_neg room]
        rw [position] at room
        have full : mbSerPduSizeMax ≤ current.length := Nat.le_of_not_lt room
        refine ⟨.error rfl ?_, ?_⟩
        · rw [List.length_append]
          exact Nat.lt_succ_of_le full
        · rw [List.take_append_of_le_length full]
          exact buffer
  | error state long =>
      unfold SlaveRtu.xMBRTUReceiveFSM
      simp only [state]
      refine ⟨.error state ?_, ?_⟩
      · rw [List.length_append]
        exact Nat.lt_succ_of_lt long
      · rw [List.take_append_of_le_length (Nat.le_of_lt long)]
        exact buffer

theorem frames_update (change : App → App) :
    (inputs ++ [Input.update change]).filterMap Input.frame? = inputs.filterMap Input.frame? := by
  simp [Input.frame?]

theorem frames_frame (bytes : List U8) :
    (inputs ++ [Input.frame bytes]).filterMap Input.frame? =
      inputs.filterMap Input.frame? ++ [bytes] := by
  simp [Input.frame?]

theorem Phase.update (phase : Phase handlers ucMBAddress initial heard inputs line)
    (change : App → App) :
    Phase handlers ucMBAddress initial heard (inputs ++ [.update change])
      { line with node := { line.node with app := change line.node.app } } := by
  have server : serveAll handlers ucMBAddress initial (inputs ++ [.update change]) =
      { serveAll handlers ucMBAddress initial inputs with
        app := change (serveAll handlers ucMBAddress initial inputs).app } :=
    serveAll_append _
  have changed : ∀ {server : Server App}, Agrees server line →
      Agrees { server with app := change server.app }
        { line with node := { line.node with app := change line.node.app } } :=
    fun agrees => ⟨congrArg change agrees.app, agrees.sent, agrees.silent⟩
  have frames := @frames_update App inputs change
  cases phase with
  | startup agrees buffer state events complete none =>
      exact .startup (server ▸ changed agrees) (server ▸ buffer) state events complete
        (frames.trans none)
  | listening agrees buffer reception events complete same =>
      exact .listening (server ▸ changed agrees) (server ▸ buffer) reception events complete
        (same.trans frames.symm)
  | received agrees buffer state position short events current complete same =>
      exact .received (server ▸ changed agrees) (server ▸ buffer) state position short events
        current complete (frames.symm ▸ same)
  | executing agrees buffer state taken short addressed address length events current complete same =>
      exact .executing (server ▸ changed agrees) (server ▸ buffer) state taken short addressed
        address length events current complete (frames.symm ▸ same)
  | sending app sent buffer state xmit place events current complete same =>
      exact .sending (server ▸ congrArg change app) (server ▸ sent) (server ▸ buffer) state xmit
        place events current complete (same.trans frames.symm)
  | ending app sent buffer state xmit place events current complete same =>
      exact .ending (server ▸ congrArg change app) (server ▸ sent) (server ▸ buffer) state xmit
        place events current complete (same.trans frames.symm)

theorem Phase.heardByte (sound : line.node.rtu.Sound)
    (phase : Phase handlers ucMBAddress initial heard inputs line)
    (enabled : line.node.rtu.rxEnabled = true) (ucByte : U8)
    (keepsUp : KeepsUp line (.received ucByte)) :
    Phase handlers ucMBAddress initial (heard.hear (.received ucByte : SlaveLabel App)) inputs
      (line.withRtu (line.node.rtu.xMBRTUReceiveFSM ucByte)) := by
  have others : ∀ rtu : SlaveRtu,
      (rtu.xMBRTUReceiveFSM ucByte).eSndState = rtu.eSndState ∧
        (rtu.xMBRTUReceiveFSM ucByte).xSlaveOsEvent = rtu.xSlaveOsEvent := by
    intro rtu
    unfold SlaveRtu.xMBRTUReceiveFSM
    cases rtu.eRcvState with
    | init => exact ⟨rfl, rfl⟩
    | idle => exact ⟨rfl, rfl⟩
    | error => exact ⟨rfl, rfl⟩
    | rcv =>
        simp only
        split
        · exact ⟨rfl, rfl⟩
        · exact ⟨rfl, rfl⟩
  obtain ⟨sender, posted⟩ := others line.node.rtu
  have silent : line.node.rtu.eSndState ≠ .xmit := by
    rcases sound.receiver.mp enabled with idle | place
    · rw [idle]
      exact fun same => MBSndState.noConfusion same
    · exact absurd place keepsUp.2.2
  cases phase with
  | startup agrees buffer state events complete none =>
      have same : line.node.rtu.xMBRTUReceiveFSM ucByte = line.node.rtu.vMBPortTimersEnable := by
        simp only [SlaveRtu.xMBRTUReceiveFSM, state]
      rw [same]
      exact .startup ⟨agrees.app, agrees.sent, agrees.silent⟩ buffer state events complete none
  | listening agrees buffer reception events complete same =>
      obtain ⟨held, stored⟩ := reception.received buffer ucByte
      exact .listening ⟨agrees.app, agrees.sent, sender.trans agrees.silent⟩ stored held
        (posted.symm ▸ events) complete same
  | received agrees buffer state position short events current complete same =>
      rw [KeepsUp, events] at keepsUp
      cases keepsUp.1
  | executing agrees buffer state taken short addressed address length events current complete same =>
      rw [KeepsUp, events] at keepsUp
      cases keepsUp.2.1
  | sending app sent buffer state xmit place events current complete same =>
      exact absurd xmit silent
  | ending app sent buffer state xmit place events current complete same =>
      exact absurd xmit silent

theorem Phase.silence (sound : line.node.rtu.Sound)
    (phase : Phase handlers ucMBAddress initial heard inputs line)
    (running : line.node.rtu.timerRunning = true) (keepsUp : KeepsUp line .t35) :
    ∃ more, more.filterMap Input.update? = [] ∧
      Phase handlers ucMBAddress initial (heard.hear (.t35 : SlaveLabel App)) (inputs ++ more)
        (line.withRtu line.node.rtu.xMBRTUTimerT35Expired) := by
  have awaited := sound.timer.mp running
  have quiet : line.node.rtu.xSlaveOsEvent = .quiet := keepsUp
  obtain ⟨carried, current⟩ := heard
  have some : carried ++ [current] ≠ [] := List.concat_ne_nil _ _
  rw [xMBRTUTimerT35Expired_eq]
  cases phase with
  | startup agrees buffer state events complete none =>
      refine ⟨[], rfl, ?_⟩
      rw [List.append_nil]
      have ready : line.node.rtu.eRcvState.expired line.node.rtu.xSlaveOsEvent =
          .pending .ready := by
        rw [state, quiet]
        exact SlaveOsEvent.quiet_post .ready
      refine .listening ⟨agrees.app, agrees.sent, agrees.silent⟩ buffer (.idle rfl)
        (.inr (.inl ready)) some ?_
      cases complete
      exact none.symm
  | listening agrees buffer reception events complete same =>
      have tail : (carried ++ [current]).tail = inputs.filterMap Input.frame? ++ [current] := by
        rw [List.tail_append_of_ne_nil complete, same]
      cases reception with
      | idle state => exact absurd state awaited
      | rcv state position short =>
          have taken : List.take mbSerPduSizeMax current = current :=
            List.take_of_length_le short
          have posted : line.node.rtu.eRcvState.expired line.node.rtu.xSlaveOsEvent =
              .pending .frameReceived := by
            rw [state, quiet]
            exact SlaveOsEvent.quiet_post .frameReceived
          refine ⟨[], rfl, ?_⟩
          rw [List.append_nil]
          exact .received ⟨agrees.app, agrees.sent, agrees.silent⟩
            (buffer.trans (congrArg _ taken)) rfl position short posted rfl some tail
      | error state long =>
          have served : serveAll handlers ucMBAddress initial (inputs ++ [.frame current]) =
              { serveAll handlers ucMBAddress initial inputs with
                buffer := (serveAll handlers ucMBAddress initial inputs).buffer.store 0
                  (current.take mbSerPduSizeMax) } := by
            rw [serveAll_append, Server.serve, if_neg (Nat.not_le_of_lt long)]
          have none : line.node.rtu.eRcvState.expired line.node.rtu.xSlaveOsEvent = .quiet := by
            rw [state, quiet]; rfl
          refine ⟨[.frame current], rfl, ?_⟩
          exact .listening (served ▸ ⟨agrees.app, agrees.sent, agrees.silent⟩) (served ▸ buffer)
            (.idle rfl) (.inl none) some (tail.trans (frames_frame _).symm)
  | received agrees buffer state position short events current complete same =>
      exact absurd state awaited
  | executing agrees buffer state taken short addressed address length events current complete same =>
      exact absurd state awaited
  | sending app sent buffer state xmit place events current complete same =>
      exact absurd state awaited
  | ending app sent buffer state xmit place events current complete same =>
      exact absurd state awaited

theorem Phase.transmitted (sound : line.node.rtu.Sound)
    (phase : Phase handlers ucMBAddress initial heard inputs line)
    (enabled : line.node.rtu.softTransIrq ≠ .waits ∨ line.node.rtu.txEnabled = true) :
    Phase handlers ucMBAddress initial heard inputs
      { line.withRtu line.node.rtu.xMBRTUTransmitFSM.2 with
        sent := line.sent ++ line.node.rtu.xMBRTUTransmitFSM.1.toList } := by
  have sender : line.node.rtu.eSndState = .xmit := by
    rcases enabled with inside | asked
    · exact sound.inside inside
    · exact (sound.transmitter.mp asked).1
  have busy : ∀ server : Server App, ¬ Agrees server line := by
    intro server agrees
    rw [agrees.silent] at sender
    cases sender
  cases phase with
  | startup agrees => exact absurd agrees (busy _)
  | listening agrees => exact absurd agrees (busy _)
  | received agrees => exact absurd agrees (busy _)
  | executing agrees => exact absurd agrees (busy _)
  | sending app sent buffer state xmit place events current complete same =>
      cases count : line.node.rtu.usSndBufferCount with
      | zero =>
          have all : line.sent = (serveAll handlers ucMBAddress initial inputs).answers := by
            rw [SlaveRtu.queued, count, Memory.load, List.append_nil] at sent
            exact sent
          have posted : line.node.rtu.xSlaveOsEvent.xMBPortEventPost .frameSent =
              .pending .frameSent := by
            rw [events]
            exact SlaveOsEvent.quiet_post .frameSent
          rw [xMBRTUTransmitFSM_done place xmit count]
          exact .ending app ((List.append_nil _).trans all) buffer state xmit
            (fun same => SoftTransIrq.noConfusion same) posted current complete same
      | succ remaining =>
          rw [xMBRTUTransmitFSM_byte place xmit count]
          refine .sending app ?_ buffer state xmit place events current complete same
          rw [SlaveRtu.queued, count, Memory.load] at sent
          rw [← sent, List.append_assoc]
          rfl
  | ending app sent buffer state xmit place events current complete same =>
      have all : line.sent ++ [] = (serveAll handlers ucMBAddress initial inputs).answers :=
        (List.append_nil _).trans sent
      unfold SlaveRtu.xMBRTUTransmitFSM
      cases stands : line.node.rtu.softTransIrq with
      | waits => exact absurd stands place
      | posted =>
          exact .ending app all buffer state xmit (fun same => SoftTransIrq.noConfusion same) events current
            complete same
      | enabled =>
          refine .listening ⟨app, all, rfl⟩ ?_ ?_ (.inr (.inr events)) complete same
          · rw [current]
            exact buffer
          · rw [current]
            exact .idle state

/-- A thread that takes its only event and posts none is suspended again. -/
theorem waits_quiet {node : SlaveNode App} {eEvent : SlaveEvent}
    (events : node.rtu.xSlaveOsEvent = .pending eEvent) :
    node.waits = { node with rtu := { node.rtu with xSlaveOsEvent := .quiet } } := by
  unfold SlaveNode.waits
  rw [events, SlaveOsEvent.pending_get]

theorem serve_refused {server : Server App} {bytes : List U8} (short : bytes.length ≤ mbSerPduSizeMax)
    (refused : ∀ received, receiveFrom (server.buffer.store 0 bytes) bytes.length = some received →
      ¬ (received.ucRcvAddress = ucMBAddress ∨ received.ucRcvAddress = mbAddressBroadcast)) :
    server.serve handlers ucMBAddress (.frame bytes) =
      { server with buffer := server.buffer.store 0 bytes } := by
  rw [Server.serve, if_pos short, List.take_of_length_le short]
  simp only
  split
  · rfl
  · next received taken => exact if_neg (refused received taken)

theorem serve_taken {server : Server App} {bytes : List U8} {received : Received}
    (short : bytes.length ≤ mbSerPduSizeMax)
    (taken : receiveFrom (server.buffer.store 0 bytes) bytes.length = some received)
    (addressed : received.ucRcvAddress = ucMBAddress ∨ received.ucRcvAddress = mbAddressBroadcast) :
    server.serve handlers ucMBAddress (.frame bytes) =
      Server.execute handlers ucMBAddress
        { server with buffer := server.buffer.store 0 bytes } received := by
  rw [Server.serve, if_pos short, List.take_of_length_le short]
  simp only [taken]
  exact if_pos addressed

theorem Phase.polledFrame {last : List U8}
    (agrees : Agrees (serveAll handlers ucMBAddress initial inputs) line)
    (address : line.node.ucMBAddress = ucMBAddress)
    (buffer : line.node.rtu.ucRTUBuf =
      (serveAll handlers ucMBAddress initial inputs).buffer.store 0 last)
    (state : line.node.rtu.eRcvState = .idle)
    (position : line.node.rtu.usRcvBufferPos = last.length)
    (short : last.length ≤ mbSerPduSizeMax)
    (events : line.node.rtu.xSlaveOsEvent = .pending .frameReceived)
    (current : heard.current = []) (complete : heard.complete ≠ [])
    (frames : heard.complete.tail = inputs.filterMap Input.frame? ++ [last]) :
    ∃ more, more.filterMap Input.update? = [] ∧
      Phase handlers ucMBAddress initial heard (inputs ++ more)
        { line with node := (eMBPoll handlers line.node .frameReceived).waits } := by
  have passed : ∀ node : SlaveNode App, node.app = line.node.app →
      node.rtu = { line.node.rtu with xSlaveOsEvent := .quiet } →
      (∀ received, receiveFrom line.node.rtu.ucRTUBuf last.length = some received →
        ¬ (received.ucRcvAddress = ucMBAddress ∨ received.ucRcvAddress = mbAddressBroadcast)) →
      Phase handlers ucMBAddress initial heard (inputs ++ [.frame last]) { line with node := node } := by
    intro node app rtu refused
    have served : serveAll handlers ucMBAddress initial (inputs ++ [.frame last]) =
        { serveAll handlers ucMBAddress initial inputs with
          buffer := (serveAll handlers ucMBAddress initial inputs).buffer.store 0 last } := by
      rw [serveAll_append]
      exact serve_refused short (buffer ▸ refused)
    refine .listening ⟨?_, ?_, ?_⟩ ?_ ?_ (.inl ?_) complete (frames.trans (frames_frame _).symm)
    · rw [served]
      exact app.trans agrees.app
    · rw [served]
      exact agrees.sent
    · rw [rtu]
      exact agrees.silent
    · rw [served, current, rtu]
      exact buffer
    · rw [current, rtu]
      exact .idle state
    · rw [rtu]
  unfold eMBPoll
  have receiver : line.node.rtu.eMBRTUReceive =
      receiveFrom line.node.rtu.ucRTUBuf last.length := by rw [← position]; rfl
  simp only [receiver]
  cases taken : receiveFrom line.node.rtu.ucRTUBuf last.length with
  | none =>
      simp only
      rw [waits_quiet events]
      refine ⟨[.frame last], rfl, passed _ rfl rfl fun received handed => ?_⟩
      rw [taken] at handed
      cases handed
  | some received =>
      by_cases addressed : received.ucRcvAddress = ucMBAddress ∨
          received.ucRcvAddress = mbAddressBroadcast
      · refine ⟨[], rfl, ?_⟩
        rw [List.append_nil]
        have mine : received.ucRcvAddress = line.node.ucMBAddress ∨
            received.ucRcvAddress = mbAddressBroadcast := address.symm ▸ addressed
        simp only [if_pos mine]
        have next : (line.node.rtu.xSlaveOsEvent.xMBPortEventPost .execute).xMBPortEventGet =
            .pending .execute := by
          rw [events]
          exact SlaveOsEvent.pending_post_get _ _
        exact .executing ⟨agrees.app, agrees.sent, agrees.silent⟩ buffer state taken short addressed
          rfl rfl next current complete frames
      · have other : ¬ (received.ucRcvAddress = line.node.ucMBAddress ∨
            received.ucRcvAddress = mbAddressBroadcast) := address.symm ▸ addressed
        simp only [if_neg other]
        have suspended := @waits_quiet App { line.node with
          ucRcvAddress := received.ucRcvAddress
          usLength := received.usLength } _ events
        rw [suspended]
        refine ⟨[.frame last], rfl, passed _ rfl rfl fun again handed => ?_⟩
        cases Option.some.inj (taken.symm.trans handed)
        exact addressed

theorem Phase.polledExecute {last : List U8} {received : Received}
    (agrees : Agrees (serveAll handlers ucMBAddress initial inputs) line)
    (own : line.node.ucMBAddress = ucMBAddress)
    (buffer : line.node.rtu.ucRTUBuf =
      (serveAll handlers ucMBAddress initial inputs).buffer.store 0 last)
    (state : line.node.rtu.eRcvState = .idle) (place : line.node.rtu.softTransIrq = .waits)
    (taken : receiveFrom line.node.rtu.ucRTUBuf last.length = some received)
    (short : last.length ≤ mbSerPduSizeMax)
    (addressed : received.ucRcvAddress = ucMBAddress ∨
      received.ucRcvAddress = mbAddressBroadcast)
    (address : line.node.ucRcvAddress = received.ucRcvAddress)
    (length : line.node.usLength = received.usLength)
    (events : line.node.rtu.xSlaveOsEvent = .pending .execute)
    (current : heard.current = []) (complete : heard.complete ≠ [])
    (frames : heard.complete.tail = inputs.filterMap Input.frame? ++ [last]) :
    Phase handlers ucMBAddress initial heard (inputs ++ [.frame last])
      { line with node := (eMBPoll handlers line.node .execute).waits } := by
  let server := serveAll handlers ucMBAddress initial inputs
  let stored : Server App := { server with buffer := server.buffer.store 0 last }
  have served : serveAll handlers ucMBAddress initial (inputs ++ [.frame last]) =
      stored.execute handlers ucMBAddress received := by
    rw [serveAll_append]
    exact serve_taken short (buffer ▸ taken) addressed
  let executed := execute handlers received.ucRcvAddress stored.app stored.buffer received.usLength
  have same : execute handlers line.node.ucRcvAddress line.node.app line.node.rtu.ucRTUBuf
      line.node.usLength = executed := by rw [address, agrees.app, buffer, length]
  have frames := frames.trans (frames_frame last).symm
  have polled : eMBPoll handlers line.node .execute = line.node.answer executed :=
    congrArg line.node.answer same
  have suspended : line.node.rtu.xSlaveOsEvent.xMBPortEventGet = .quiet := by
    rw [events, SlaveOsEvent.pending_get]
  rw [polled, SlaveNode.answer, own]
  cases replies : executed.replies with
  | false =>
      have answer : stored.execute handlers ucMBAddress received =
          { stored with app := executed.app, buffer := executed.buffer } := by
        simp only [Server.execute]
        exact if_neg (Bool.eq_false_iff.mp replies)
      rw [answer] at served
      simp only [Bool.false_eq_true, if_false]
      refine .listening (served ▸ ⟨rfl, agrees.sent, agrees.silent⟩) ?_ ?_ (.inl suspended)
        complete frames
      · rw [served, current]
        rfl
      · rw [current]
        exact .idle state
  | true =>
      have answer : stored.execute handlers ucMBAddress received =
          { app := executed.app
            buffer := build executed.buffer ucMBAddress executed.usLength
            answers := stored.answers ++
              frame ucMBAddress (executed.buffer.load mbSerPduPduOff executed.usLength) } := by
        simp only [Server.execute]
        exact if_pos replies
      rw [answer] at served
      simp only [if_true]
      rw [@eMBRTUSend_eq { line.node.rtu with ucRTUBuf := executed.buffer } _ _ state]
      refine .sending (served ▸ rfl) ?_ (served ▸ rfl) state rfl place suspended current complete
        frames
      rw [served]
      exact congrArg₂ (· ++ ·) agrees.sent (build_load ..)

theorem Phase.polled (phase : Phase handlers ucMBAddress initial heard inputs line)
    (own : line.node.ucMBAddress = ucMBAddress) {stale : Option SlaveEvent} {recvedEvent : U32}
    (place : line.node.rtu.softTransIrq = .waits)
    (given : line.node.rtu.xSlaveOsEvent.recvedEvent = some recvedEvent) :
    ∃ more, more.filterMap Input.update? = [] ∧
      Phase handlers ucMBAddress initial heard (inputs ++ more)
        { line with node := (polledWith handlers line.node recvedEvent stale).waits } := by
  obtain ⟨carried, current⟩ := heard
  have pending : line.node.rtu.xSlaveOsEvent ≠ .quiet := by
    intro quiet
    rw [quiet] at given
    cases given
  have handled : ∀ eEvent, line.node.rtu.xSlaveOsEvent = .pending eEvent →
      polledWith handlers line.node recvedEvent stale = eMBPoll handlers line.node eEvent := by
    intro eEvent events
    rw [events] at given
    cases given
    cases eEvent with
    | ready => rfl
    | frameReceived => rfl
    | execute => rfl
    | frameSent => rfl
  cases phase with
  | startup agrees buffer state events complete none => exact absurd events pending
  | listening agrees buffer reception events complete same =>
      have kept : ∀ eEvent, line.node.rtu.xSlaveOsEvent = .pending eEvent →
          Phase handlers ucMBAddress initial ⟨carried, current⟩ (inputs ++ [])
            { line with node := line.node.waits } := by
        intro eEvent given
        rw [List.append_nil, waits_quiet given]
        refine .listening ⟨agrees.app, agrees.sent, agrees.silent⟩ buffer ?_ (.inl rfl) complete same
        cases reception with
        | idle state => exact .idle state
        | rcv state position short => exact .rcv state position short
        | error state long => exact .error state long
      rcases events with none | ready | sent
      · exact absurd none pending
      · exact ⟨[], rfl, (handled _ ready).symm ▸ kept _ ready⟩
      · exact ⟨[], rfl, (handled _ sent).symm ▸ kept _ sent⟩
  | received agrees buffer state position short events current complete same =>
      rw [handled _ events]
      exact polledFrame agrees own buffer state position short events current complete same
  | @executing last _ agrees buffer state taken short addressed address length events current complete same =>
      rw [handled _ events]
      exact ⟨[.frame last], rfl, polledExecute agrees own buffer state place taken short addressed
        address length events current complete same⟩
  | sending app sent buffer state xmit place events current complete same =>
      exact absurd events pending
  | ending app sent buffer state xmit stands events current complete same =>
      exact absurd place stands

theorem eMBPoll_address (node : SlaveNode App) (eEvent : SlaveEvent) :
    (eMBPoll handlers node eEvent).ucMBAddress = node.ucMBAddress := by
  cases eEvent with
  | ready => rfl
  | frameSent => rfl
  | frameReceived =>
      simp only [eMBPoll]
      split
      · rfl
      · split
        · rfl
        · rfl
  | execute =>
      simp only [eMBPoll, SlaveNode.answer]
      split
      · cases SlaveRtu.eMBRTUSend _ node.ucMBAddress mbSerPduPduOff _ with
        | none => rfl
        | some sending => rfl
      · rfl

theorem step_address (stepped : line.step handlers label = some next) :
    next.node.ucMBAddress = line.node.ucMBAddress := by
  cases SlaveLine.transition stepped with
  | received enabled => rfl
  | t35 running => rfl
  | transmit enabled => rfl
  | @poll stale recvedEvent place given =>
      change (polledWith handlers line.node recvedEvent stale).ucMBAddress = _
      unfold polledWith
      split
      · rfl
      · exact eMBPoll_address _ _
  | update => rfl

theorem Phase.step (sound : line.node.rtu.Sound) (own : line.node.ucMBAddress = ucMBAddress)
    (phase : Phase handlers ucMBAddress initial heard inputs line) (keepsUp : KeepsUp line label)
    (stepped : line.step handlers label = some next) :
    ∃ more, more.filterMap Input.update? = updates [label] ∧
      Phase handlers ucMBAddress initial (heard.hear label) (inputs ++ more) next := by
  cases SlaveLine.transition stepped with
  | @received ucByte enabled =>
      refine ⟨[], rfl, ?_⟩
      rw [List.append_nil]
      exact phase.heardByte sound enabled ucByte keepsUp
  | t35 running => exact phase.silence sound running keepsUp
  | transmit enabled =>
      refine ⟨[], rfl, ?_⟩
      rw [List.append_nil]
      exact phase.transmitted sound enabled
  | poll place given => exact phase.polled own place given
  | @update change => exact ⟨[.update change], rfl, phase.update change⟩

theorem updates_cons (label : SlaveLabel App) (rest : List (SlaveLabel App)) :
    updates (label :: rest) = updates [label] ++ updates rest :=
  List.filterMap_append (l := [label]) ..

theorem Phase.run (bounded : handlers.Bounded) {labels : List (SlaveLabel App)}
    {final : SlaveLine App} (sound : line.node.Sound) (own : line.node.ucMBAddress = ucMBAddress)
    (phase : Phase handlers ucMBAddress initial heard inputs line)
    (guarded : Run.Guarded (SlaveLine.step handlers) KeepsUp line labels)
    (ran : Run.run (SlaveLine.step handlers) line labels = some final) :
    ∃ more, more.filterMap Input.update? = updates labels ∧
      Phase handlers ucMBAddress initial (labels.foldl Heard.hear heard) (inputs ++ more) final := by
  induction labels generalizing line heard inputs with
  | nil =>
      cases Option.some.inj ran
      refine ⟨[], rfl, ?_⟩
      rw [List.append_nil]
      exact phase
  | cons label rest ih =>
      obtain ⟨next, stepped, remaining⟩ := Run.run_cons_some ran
      obtain ⟨allowed, later⟩ := guarded
      obtain ⟨first, changed, held⟩ := phase.step sound.rtu own allowed stepped
      obtain ⟨more, others, reached⟩ :=
        ih (SlaveLine.step_sound bounded sound stepped) ((step_address stepped).trans own) held
          (later next stepped) remaining
      refine ⟨first ++ more, ?_, ?_⟩
      · rw [List.filterMap_append, changed, others, ← updates_cons]
      · rw [← List.append_assoc]
        exact reached

end Steps

/-- Nothing waits to be executed or sent. -/
def SlaveLine.Idle (line : SlaveLine App) : Prop :=
  line.node.rtu.xSlaveOsEvent.awaits .frameReceived = false ∧
    line.node.rtu.xSlaveOsEvent.awaits .execute = false ∧
    line.node.rtu.eSndState = .idle

instance (line : SlaveLine App) : Decidable line.Idle := inferInstanceAs (Decidable (_ ∧ _ ∧ _))

/-- A slave whose thread keeps up with the line is a server: some order of the frames, as
the line carried them, and of the changes by other threads explains its data and what it
put on the line. -/
theorem serves_of_bounded {handlers : Handlers App} (bounded : handlers.Bounded)
    {ucMBAddress : U8} {buffer : Memory U8} {app : App} {labels : List (SlaveLabel App)}
    {final : SlaveLine App}
    (guarded : Run.Guarded (SlaveLine.step handlers) KeepsUp
      (.start ucMBAddress buffer app) labels)
    (ran : Run.run (SlaveLine.step handlers) (.start ucMBAddress buffer app) labels =
      some final) :
    ∃ inputs, inputs.filterMap Input.update? = updates labels ∧
      inputs.filterMap Input.frame? <+: segments labels ∧
      final.node.app = (serveAll handlers ucMBAddress ⟨app, buffer, []⟩ inputs).app ∧
      final.sent <+: (serveAll handlers ucMBAddress ⟨app, buffer, []⟩ inputs).answers ∧
      (final.Idle → inputs.filterMap Input.frame? = segments labels ∧
        final.sent = (serveAll handlers ucMBAddress ⟨app, buffer, []⟩ inputs).answers) := by
  have begun : Phase handlers ucMBAddress ⟨app, buffer, []⟩ ⟨[], []⟩ []
      (.start ucMBAddress buffer app) := .startup ⟨rfl, rfl, rfl⟩ rfl rfl rfl rfl rfl
  have own : (SlaveLine.start ucMBAddress buffer app).node.ucMBAddress = ucMBAddress := rfl
  obtain ⟨inputs, changed, phase⟩ :=
    begun.run bounded (SlaveLine.start_sound ..) own guarded ran
  rw [List.nil_append] at phase
  refine ⟨inputs, changed, ?_⟩
  have told : labels.foldl Heard.hear ⟨[], []⟩ = heard labels := rfl
  rw [told] at phase
  cases phase with
  | startup agrees buffer state events complete none =>
      have silent : segments labels = [] := by rw [segments, complete]; rfl
      rw [none, silent]
      refine ⟨List.prefix_refl _, agrees.app, ?_, fun _ => ⟨rfl, agrees.sent⟩⟩
      exact agrees.sent ▸ List.prefix_refl _
  | listening agrees buffer reception events complete same =>
      refine ⟨same ▸ List.prefix_refl _, agrees.app, ?_, fun _ => ⟨same.symm, agrees.sent⟩⟩
      exact agrees.sent ▸ List.prefix_refl _
  | received agrees buffer state position short events current complete same =>
      refine ⟨⟨_, same.symm⟩, agrees.app, ?_, fun idle => ?_⟩
      · exact agrees.sent ▸ List.prefix_refl _
      · rw [SlaveLine.Idle, events] at idle
        cases idle.1
  | executing agrees buffer state taken short addressed address length events current complete same =>
      refine ⟨⟨_, same.symm⟩, agrees.app, ?_, fun idle => ?_⟩
      · exact agrees.sent ▸ List.prefix_refl _
      · rw [SlaveLine.Idle, events] at idle
        cases idle.2.1
  | sending app sent buffer state xmit place events current complete same =>
      refine ⟨same ▸ List.prefix_refl _, app, ⟨_, sent⟩, fun idle => ?_⟩
      rw [SlaveLine.Idle, xmit] at idle
      cases idle.2.2
  | ending app sent buffer state xmit place events current complete same =>
      exact ⟨same ▸ List.prefix_refl _, app, sent ▸ List.prefix_refl _, fun _ => ⟨same.symm, sent⟩⟩

end ZhuoduControl.Modbus.Rtu
