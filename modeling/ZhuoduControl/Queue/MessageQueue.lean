import ZhuoduControl.Library.Layout

/-! The RT-Thread message queue: messages linked from head to tail, and a pool of
free nodes. Sending and receiving each run in two critical sections. -/

set_option autoImplicit false

namespace ZhuoduControl.Queue

open ZhuoduControl.Library

variable {Message : Type}

/-- `struct rt_messagequeue`; `entry` is the length of `queued`. -/
structure MessageQueue (Message : Type) where
  queued : List Message
  free : Nat

namespace MessageQueue

/-- The nodes of a pool; a node is the aligned message behind a pointer. -/
def maxMsgs (msgSize poolSize : Nat) : Nat :=
  poolSize / (Layout.alignUp msgSize 4 + 4)

def rtMqInit (msgSize poolSize : Nat) : MessageQueue Message :=
  ⟨[], maxMsgs msgSize poolSize⟩

/-- The first section of `rt_mq_send`; `none` is `-RT_EFULL`. -/
def takeNode (mq : MessageQueue Message) : Option (MessageQueue Message) :=
  if mq.free = 0 then none else some { mq with free := mq.free - 1 }

/-- The second section of `rt_mq_send`. -/
def link (mq : MessageQueue Message) (message : Message) : MessageQueue Message :=
  { mq with queued := mq.queued ++ [message] }

/-- The first section of `rt_mq_recv`; an empty queue suspends the receiver. -/
def unlink (mq : MessageQueue Message) : Option (Message × MessageQueue Message) :=
  match mq.queued with
  | [] => none
  | message :: rest => some (message, { mq with queued := rest })

/-- The second section of `rt_mq_recv`. -/
def release (mq : MessageQueue Message) : MessageQueue Message :=
  { mq with free := mq.free + 1 }

/-- A send that nothing interrupts; its result is dropped, as by every caller. -/
def rtMqSend (mq : MessageQueue Message) (message : Message) : MessageQueue Message :=
  match mq.takeNode with
  | none => mq
  | some taken => taken.link message

theorem foldl_rtMqSend (mq : MessageQueue Message) (messages : List Message) :
    messages.foldl rtMqSend mq =
      ⟨mq.queued ++ messages.take mq.free, mq.free - messages.length⟩ := by
  induction messages generalizing mq with
  | nil => simp
  | cons message rest ih =>
      rw [List.foldl_cons, ih]
      obtain ⟨queued, free⟩ := mq
      cases free with
      | zero => simp [rtMqSend, takeNode]
      | succ free => simp [rtMqSend, takeNode, link]

end MessageQueue

def modbusMsgMembers : List (Member String) :=
  [⟨"retry_times", 1, 1⟩, ⟨"dev_addr", 1, 1⟩, ⟨"cmd", 1, 1⟩, ⟨"data_addr", 2, 2⟩,
    ⟨"data_type", 1, 1⟩, ⟨"dat", 4, 4⟩]

/-- `mq` over `msg_pool` as `rt_main_app_init` sets it up. -/
def initialQueue : MessageQueue Message :=
  .rtMqInit (Layout.sizeOf modbusMsgMembers) 500

theorem initialQueue_free : (initialQueue : MessageQueue Message).free = 31 :=
  show MessageQueue.maxMsgs (Layout.sizeOf modbusMsgMembers) 500 = 31 by decide +kernel

end ZhuoduControl.Queue
