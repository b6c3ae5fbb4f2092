import ZhuoduControl.Library.Run
import ZhuoduControl.Menu.CommitProperties
import ZhuoduControl.System.Threads

/-! Everything one step of the two threads can do, and the accounting of the
queue's nodes over whole runs. -/

set_option autoImplicit false

namespace ZhuoduControl.System

open ZhuoduControl.Library
open ZhuoduControl.Data
open ZhuoduControl.Modbus
open ZhuoduControl.Menu
open ZhuoduControl.Queue

def Committing.ops (committing : Committing) : List MenuOp :=
  committing.done ++ committing.rest

def Committing.advance (committing : Committing) (op : MenuOp) (rest : List MenuOp)
    (node : Option Tagged) : Committing :=
  ⟨committing.id, committing.done ++ [op], rest, node⟩

theorem Committing.advance_ops {committing : Committing} {op : MenuOp} {rest : List MenuOp}
    {node : Option Tagged} (next : committing.rest = op :: rest) :
    (committing.advance op rest node).ops = committing.ops := by
  simp [Committing.ops, Committing.advance, next]

theorem sends_snoc_silent (done : List MenuOp) {op : MenuOp} (silent : sends [op] = []) :
    sends (done ++ [op]) = sends done := by
  rw [sends_append, silent, List.append_nil]

theorem sends_advance {committing : Committing} {msg : ModbusMsg} {rest : List MenuOp}
    {node : Option Tagged} :
    sends (committing.advance (.send msg) rest node).done = sends committing.done ++ [msg] :=
  sends_append committing.done [.send msg]

/-- The confirmation sends the same messages from here as from `before`. -/
structure Continues (before after : Committing) : Prop where
  id : after.id = before.id
  ops : after.ops = before.ops
  done : sends after.done = sends before.done
  rest : sends after.rest = sends before.rest

theorem continues_refl (committing : Committing) : Continues committing committing :=
  ⟨rfl, rfl, rfl, rfl⟩

theorem continues_edit {committing : Committing} {op : MenuOp} {rest : List MenuOp}
    (next : committing.rest = op :: rest) (silent : sends [op] = []) :
    Continues committing (committing.advance op rest none) where
  id := rfl
  ops := Committing.advance_ops next
  done := sends_snoc_silent committing.done silent
  rest := by
    rw [next, ← List.singleton_append, sends_append, silent, List.nil_append]
    rfl

def Committing.tag (committing : Committing) (msg : ModbusMsg) : Tagged :=
  ⟨committing.id, (sends committing.done).length, calibrates committing.ops, msg⟩

/-- The confirmation that is about to send a message, and the message. -/
def State.nextSend (state : State) : Option (Committing × ModbusMsg) :=
  match state.menu with
  | some ⟨id, done, .send msg :: rest, none⟩ => some (⟨id, done, .send msg :: rest, none⟩, msg)
  | _ => none

theorem State.nextSend_eq {state : State} {committing : Committing} {msg : ModbusMsg}
    {rest : List MenuOp} (active : state.menu = some committing) (free : committing.node = none)
    (next : committing.rest = .send msg :: rest) : state.nextSend = some (committing, msg) := by
  obtain ⟨id, done, outstanding, node⟩ := committing
  cases free
  cases next
  rw [State.nextSend, active]

def menuNode : Option Committing → List Tagged
  | none => []
  | some committing => committing.node.toList

def Consumer.current : Consumer → Option Tagged
  | .sending message _ => some message
  | _ => none

inductive Transition (others : OtherHandlers) : State → Event → State → Prop
  | confirm {state : State} {commit : Commit} (idle : state.menu = none) :
      Transition others state (.confirm commit)
        { state with
          menu := some ⟨state.nextId, [], commit.ops state.zhuodu, none⟩
          nextId := state.nextId + 1 }
  | link {state : State} {committing : Committing} {message : Tagged}
      (active : state.menu = some committing) (held : committing.node = some message) :
      Transition others state .menu
        { state with
          mq := state.mq.link message
          menu := some { committing with node := none } }
  | leave {state : State} {committing : Committing} (active : state.menu = some committing)
      (free : committing.node = none) (finished : committing.rest = []) :
      Transition others state .menu { state with menu := none }
  | edit {state : State} {committing : Committing} {op : MenuOp} {rest : List MenuOp}
      {setting : Setting} (active : state.menu = some committing) (free : committing.node = none)
      (next : committing.rest = op :: rest) (silent : sends [op] = []) :
      Transition others state .menu
        { state.assign setting with menu := some (committing.advance op rest none) }
  | full {state : State} {committing : Committing} {msg : ModbusMsg} {rest : List MenuOp}
      (active : state.menu = some committing) (free : committing.node = none)
      (next : committing.rest = .send msg :: rest) (exhausted : state.mq.free = 0) :
      Transition others state .menu
        { state with menu := some (committing.advance (.send msg) rest none) }
  | take {state : State} {committing : Committing} {msg : ModbusMsg} {rest : List MenuOp}
      (active : state.menu = some committing) (free : committing.node = none)
      (next : committing.rest = .send msg :: rest) (available : 0 < state.mq.free) :
      Transition others state .menu
        { state with
          mq := { state.mq with free := state.mq.free - 1 }
          menu := some (committing.advance (.send msg) rest (some (committing.tag msg))) }
  | unlink {state : State} {message : Tagged} {rest : List Tagged}
      (waiting : state.consumer = .waiting) (first : state.mq.queued = message :: rest) :
      Transition others state .unlink
        { state with
          mq := { state.mq with queued := rest }
          consumer := .copying message
          taken := state.taken ++ [message] }
  | release {state : State} {message : Tagged} (copying : state.consumer = .copying message) :
      Transition others state .release
        { state with mq := state.mq.release, consumer := .sending message 0 }
  | attempt {state : State} {message : Tagged} {retry : Nat} {answer : Answer}
      (sending : state.consumer = .sending message retry)
      (allowed : retry < message.msg.retryTimes.toNat) :
      Transition others state (.attempt answer)
        { state with
          master := (message.msg.request others state.master answer).master
          consumer :=
            if (message.msg.request others state.master answer).err = .noErr then .waiting
            else .sending message (retry + 1)
          acked := if answer.Normal message.msg then state.acked ++ [message] else state.acked }
  | giveUp {state : State} {message : Tagged} {retry : Nat}
      (sending : state.consumer = .sending message retry)
      (exhausted : message.msg.retryTimes.toNat ≤ retry) :
      Transition others state .giveUp { state with consumer := .waiting }
  | interfere {state : State} {effect : Master → Master} :
      Transition others state (.interfere effect) { state with master := effect state.master }

private theorem transition_of_menuStep (others : OtherHandlers) {state : State}
    {committing : Committing} (active : state.menu = some committing) :
    Transition others state .menu (menuStep state committing) := by
  unfold menuStep
  cases held : committing.node with
  | some message => exact .link active held
  | none =>
      cases next : committing.rest with
      | nil => exact .leave active held next
      | cons op rest =>
          cases op with
          | repair setting => exact .edit active held next rfl
          | assign setting => exact .edit active held next rfl
          | send msg =>
              have whole : committing.done ++ .send msg :: rest = committing.ops := by
                rw [Committing.ops, next]
              cases exhausted : state.mq.free with
              | zero =>
                  simp only [MessageQueue.takeNode, exhausted, ↓reduceIte]
                  exact .full active held next exhausted
              | succ free =>
                  have available : 0 < state.mq.free := by omega
                  have done := @Transition.take others _ _ _ _ active held next available
                  simpa [MessageQueue.takeNode, exhausted, Committing.advance, Committing.tag,
                    whole] using done

theorem transition_of_step {others : OtherHandlers} {state next : State} {event : Event}
    (stepped : step others state event = some next) : Transition others state event next := by
  cases event with
  | confirm commit =>
      simp only [step] at stepped
      cases idle : state.menu with
      | some committing => simp [idle] at stepped
      | none =>
          simp only [idle] at stepped
          cases Option.some.inj stepped
          exact .confirm idle
  | menu =>
      simp only [step] at stepped
      obtain ⟨committing, active, rfl⟩ := Option.map_eq_some_iff.mp stepped
      exact transition_of_menuStep others active
  | unlink =>
      simp only [step] at stepped
      cases consumer : state.consumer with
      | waiting =>
          cases first : state.mq.queued with
          | nil => simp [consumer, MessageQueue.unlink, first] at stepped
          | cons message rest =>
              simp only [consumer, MessageQueue.unlink, first] at stepped
              cases Option.some.inj stepped
              exact .unlink consumer first
      | copying message => simp [consumer] at stepped
      | sending message retry => simp [consumer] at stepped
  | release =>
      simp only [step] at stepped
      cases consumer : state.consumer with
      | copying message =>
          simp only [consumer] at stepped
          cases Option.some.inj stepped
          exact .release consumer
      | waiting => simp [consumer] at stepped
      | sending message retry => simp [consumer] at stepped
  | attempt answer =>
      simp only [step] at stepped
      cases consumer : state.consumer with
      | sending message retry =>
          simp only [consumer] at stepped
          by_cases allowed : retry < message.msg.retryTimes.toNat
          · rw [if_pos allowed] at stepped
            cases Option.some.inj stepped
            exact .attempt consumer allowed
          · rw [if_neg allowed] at stepped
            cases stepped
      | waiting => simp [consumer] at stepped
      | copying message => simp [consumer] at stepped
  | giveUp =>
      simp only [step] at stepped
      cases consumer : state.consumer with
      | sending message retry =>
          simp only [consumer] at stepped
          by_cases allowed : retry < message.msg.retryTimes.toNat
          · rw [if_pos allowed] at stepped
            cases stepped
          · rw [if_neg allowed] at stepped
            cases Option.some.inj stepped
            exact .giveUp consumer (Nat.le_of_not_lt allowed)
      | waiting => simp [consumer] at stepped
      | copying message => simp [consumer] at stepped
  | interfere effect =>
      cases Option.some.inj stepped
      exact .interfere

def Consumer.held : Consumer → Nat
  | .copying _ => 1
  | _ => 0

/-- Every node of the pool is linked, free or held by one of the threads. -/
def NodesAccounted (state : State) : Prop :=
  state.mq.queued.length + state.mq.free + (menuNode state.menu).length + state.consumer.held = 31

private theorem nodesAccounted_step {others : OtherHandlers} {state next : State} {event : Event}
    (accounted : NodesAccounted state) (stepped : step others state event = some next) :
    NodesAccounted next := by
  unfold NodesAccounted at accounted ⊢
  cases transition_of_step stepped with
  | confirm idle => simpa [idle, menuNode] using accounted
  | link active held =>
      simp only [active, held, menuNode, MessageQueue.link, List.length_append] at accounted ⊢
      simp at accounted ⊢
      omega
  | leave active free finished => simpa [active, free, menuNode] using accounted
  | edit active free following silent =>
      simpa [active, free, menuNode, Committing.advance, State.assign] using accounted
  | full active free following exhausted =>
      simpa [active, free, menuNode, Committing.advance] using accounted
  | take active free following available =>
      simp only [active, free, menuNode, Committing.advance] at accounted ⊢
      simp at accounted ⊢
      omega
  | unlink waiting first =>
      simp only [waiting, first, Consumer.held, List.length_cons] at accounted ⊢
      omega
  | release copying =>
      simp only [copying, Consumer.held, MessageQueue.release] at accounted ⊢
      omega
  | attempt sending allowed =>
      simp only [sending, Consumer.held] at accounted
      split
      · exact accounted
      · exact accounted
  | giveUp sending exhausted => simpa [sending, Consumer.held] using accounted
  | interfere => exact accounted

/-- In every reachable state the queue holds at most its 31 messages. -/
theorem queued_length_le {others : OtherHandlers} {master : Master} {events : List Event}
    {state : State} (ran : Run.run (step others) (initial master) events = some state) :
    state.mq.queued.length ≤ 31 := by
  have accounted : NodesAccounted state :=
    Run.invariant_of_run (fun _ _ _ holds stepped => nodesAccounted_step holds stepped)
      (by unfold NodesAccounted initial; rw [initialQueue_free]; rfl) ran
  unfold NodesAccounted at accounted
  omega

end ZhuoduControl.System
