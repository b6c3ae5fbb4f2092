import ZhuoduControl.Menu.Commit
import ZhuoduControl.Modbus.MasterRequest
import ZhuoduControl.Queue.MessageQueue

/-! The main thread and the message thread over the message queue. Either may be
stopped between two steps: an assignment, one critical section of the queue, one
attempt to send a message. Messages carry the confirmation they belong to, which
the code does not store. -/

set_option autoImplicit false

namespace ZhuoduControl.System

open ZhuoduControl.Data
open ZhuoduControl.Modbus
open ZhuoduControl.Menu
open ZhuoduControl.Queue

/-- `cali_data_write`, whose write starts the calibration of the head. -/
def triggerAddr : U16 := 528

def calibrates (ops : List MenuOp) : Bool :=
  (sends ops).any fun msg => msg.dataAddr = triggerAddr

/-- A message, its confirmation and its position among the messages of it. -/
structure Tagged where
  commit : Nat
  index : Nat
  calibration : Bool
  msg : ModbusMsg
deriving DecidableEq

/-- A confirmation on its way: what is done, what is left, and the node that
`rt_mq_send` has taken but not linked. -/
structure Committing where
  id : Nat
  done : List MenuOp
  rest : List MenuOp
  node : Option Tagged
deriving DecidableEq

/-- The message thread: waiting in `rt_mq_recv`, between its two sections, or in
the retry loop. -/
inductive Consumer
  | waiting
  | copying (message : Tagged)
  | sending (message : Tagged) (retry : Nat)
deriving DecidableEq

structure State where
  master : Master
  mq : MessageQueue Tagged
  menu : Option Committing
  consumer : Consumer
  nextId : Nat
  /-- the messages received so far -/
  taken : List Tagged
  /-- the messages that got a normal answer -/
  acked : List Tagged

inductive Event
  /-- the operator confirms a page -/
  | confirm (commit : Commit)
  /-- the next step of the confirmation in progress -/
  | menu
  | unlink
  | release
  | attempt (answer : Answer)
  /-- the retries are used up -/
  | giveUp
  /-- another thread uses the master or refreshes the settings -/
  | interfere (effect : Master → Master)

def State.zhuodu (state : State) : Zhuodu :=
  state.master.mirror.zhuoduData

def State.assign (state : State) (setting : Setting) : State :=
  let mirror := { state.master.mirror with zhuoduData := state.zhuodu.assign setting }
  { state with master := { state.master with mirror := mirror } }

/-- One step of the confirmation; after the last one the page calls `leaf_exit`. -/
def menuStep (state : State) (committing : Committing) : State :=
  match committing.node with
  | some message =>
      { state with
        mq := state.mq.link message
        menu := some { committing with node := none } }
  | none =>
      match committing.rest with
      | [] => { state with menu := none }
      | .repair setting :: rest =>
          { state.assign setting with
            menu := some
              { committing with done := committing.done ++ [.repair setting], rest := rest } }
      | .assign setting :: rest =>
          { state.assign setting with
            menu := some
              { committing with done := committing.done ++ [.assign setting], rest := rest } }
      | .send msg :: rest =>
          let message : Tagged :=
            { commit := committing.id
              index := (sends committing.done).length
              calibration := calibrates (committing.done ++ committing.rest)
              msg := msg }
          let done := committing.done ++ [.send msg]
          match state.mq.takeNode with
          -- `-RT_EFULL`, which no page looks at
          | none => { state with menu := some { committing with done := done, rest := rest } }
          | some mq =>
              { state with
                mq := mq
                menu := some
                  { committing with done := done, rest := rest, node := some message } }

instance (msg : ModbusMsg) (answer : Answer) : Decidable (answer.Normal msg) :=
  match answer with
  | .busy => inferInstanceAs (Decidable False)
  | .timeout => inferInstanceAs (Decidable False)
  | .receiveError => inferInstanceAs (Decidable False)
  | .frame _ _ _ => inferInstanceAs (Decidable (_ ∧ _))

def step (others : OtherHandlers) (state : State) : Event → Option State
  | .confirm commit =>
      match state.menu with
      | some _ => none
      | none =>
          some { state with
            menu := some ⟨state.nextId, [], commit.ops state.zhuodu, none⟩
            nextId := state.nextId + 1 }
  | .menu => state.menu.map (menuStep state)
  | .unlink =>
      match state.consumer, state.mq.unlink with
      | .waiting, some (message, mq) =>
          some { state with
            mq := mq
            consumer := .copying message
            taken := state.taken ++ [message] }
      | _, _ => none
  | .release =>
      match state.consumer with
      | .copying message =>
          some { state with mq := state.mq.release, consumer := .sending message 0 }
      | _ => none
  | .attempt answer =>
      match state.consumer with
      | .sending message retry =>
          if retry < message.msg.retryTimes.toNat then
            let result := message.msg.request others state.master answer
            some { state with
              master := result.master
              consumer := if result.err = .noErr then .waiting else .sending message (retry + 1)
              acked :=
                if answer.Normal message.msg then state.acked ++ [message] else state.acked }
          else none
      | _ => none
  | .giveUp =>
      match state.consumer with
      | .sending message retry =>
          if retry < message.msg.retryTimes.toNat then none
          else some { state with consumer := .waiting }
      | _ => none
  | .interfere effect => some { state with master := effect state.master }

/-- Both threads at their start, with the queue of `rt_main_app_init`. -/
def initial (master : Master) : State where
  master := master
  mq := initialQueue
  menu := none
  consumer := .waiting
  nextId := 0
  taken := []
  acked := []

def powerUpMaster : Master :=
  ⟨powerUp, fun _ => 0⟩

end ZhuoduControl.System
