import ZhuoduControl.Kernel.Semaphore
import ZhuoduControl.Library.Linked
import ZhuoduControl.Queue.MessageQueue

/-! The message queue at its nodes and pointers, and the threads that send and receive:
what they do between two critical sections may be interrupted by all others. -/

set_option autoImplicit false

namespace ZhuoduControl.Queue

open ZhuoduControl.Library
open ZhuoduControl.Data
open ZhuoduControl.Kernel

/-- `struct rt_messagequeue` with its pool; a node is named by its place there. -/
structure RtMessageQueue (Thread Message : Type) where
  next : Nat → Option Nat
  body : Nat → Message
  msgQueueHead : Option Nat
  msgQueueTail : Option Nat
  msgQueueFree : Option Nat
  entry : U16
  suspendThread : List Thread

namespace RtMessageQueue

variable {Thread Message : Type}

/-- The loop of `rt_mq_init`: each node is put before those that the loop has seen. -/
def initLoop : Nat → (Nat → Option Nat) × Option Nat
  | 0 => (fun _ => none, none)
  | count + 1 =>
      let (next, free) := initLoop count
      (Function.update next count free, some count)

def rtMqInit (maxMsgs : U16) (body : Nat → Message) : RtMessageQueue Thread Message :=
  let (next, free) := initLoop maxMsgs.toNat
  { next := next
    body := body
    msgQueueHead := none
    msgQueueTail := none
    msgQueueFree := free
    entry := 0
    suspendThread := [] }

variable (mq : RtMessageQueue Thread Message)

/-- The first section of a send; `none` is `-RT_EFULL`. -/
def takeFree : Option (Nat × RtMessageQueue Thread Message) :=
  mq.msgQueueFree.map fun msg => (msg, { mq with msgQueueFree := mq.next msg })

/-- What a sender does with its node outside a section. -/
def fill (msg : Nat) (buffer : Message) (urgent : Bool) : RtMessageQueue Thread Message :=
  { mq with
    next := if urgent then mq.next else Function.update mq.next msg none
    body := Function.update mq.body msg buffer }

/-- The second section of `rt_mq_send`, up to the resumption. -/
def linkTail (msg : Nat) : RtMessageQueue Thread Message :=
  { mq with
    next := match mq.msgQueueTail with
      | none => mq.next
      | some tail => Function.update mq.next tail (some msg)
    msgQueueTail := some msg
    msgQueueHead := if mq.msgQueueHead = none then some msg else mq.msgQueueHead
    entry := mq.entry + 1 }

/-- The second section of `rt_mq_urgent`, up to the resumption. -/
def linkHead (msg : Nat) : RtMessageQueue Thread Message :=
  { mq with
    next := Function.update mq.next msg mq.msgQueueHead
    msgQueueHead := some msg
    msgQueueTail := if mq.msgQueueTail = none then some msg else mq.msgQueueTail
    entry := mq.entry + 1 }

/-- The first section of a receive that finds a message; `none` is a null pointer. -/
def unlinkHead : Option (Nat × RtMessageQueue Thread Message) :=
  mq.msgQueueHead.map fun msg =>
    (msg, { mq with
      msgQueueHead := mq.next msg
      msgQueueTail := if mq.msgQueueTail = some msg then none else mq.msgQueueTail
      entry := mq.entry - 1 })

/-- The last section of a receive. -/
def putFree (msg : Nat) : RtMessageQueue Thread Message :=
  { mq with
    next := Function.update mq.next msg mq.msgQueueFree
    msgQueueFree := some msg }

/-- The two lists that the pointers form. -/
structure Shape (queued free : List Nat) : Prop where
  queue : Linked mq.next mq.msgQueueHead queued
  rest : Linked mq.next mq.msgQueueFree free
  tail : mq.msgQueueTail = queued.getLast?
  entry : mq.entry.toNat = queued.length
  apart : (queued ++ free).Nodup

end RtMessageQueue

section Shapes

variable {Thread Message : Type} {mq after : RtMessageQueue Thread Message}
variable {queued free : List Nat} {msg : Nat}

open RtMessageQueue

theorem initLoop_linked (count : Nat) :
    ∃ free, Linked (initLoop count).1 (initLoop count).2 free ∧ free.Nodup ∧
      ∀ node, node ∈ free ↔ node < count := by
  induction count with
  | zero => exact ⟨[], rfl, List.nodup_nil, fun node => by simp⟩
  | succ count ih =>
      obtain ⟨free, linked, apart, all⟩ := ih
      have fresh : count ∉ free := fun member => Nat.lt_irrefl count ((all count).mp member)
      refine ⟨count :: free, linked.push fresh, List.nodup_cons.mpr ⟨fresh, apart⟩, fun node => ?_⟩
      rw [List.mem_cons, all]
      omega

theorem RtMessageQueue.Shape.takeFree (shape : mq.Shape queued free)
    (taken : mq.takeFree = some (msg, after)) :
    ∃ rest, free = msg :: rest ∧ after.Shape queued rest ∧ after.body = mq.body ∧
      after.suspendThread = mq.suspendThread := by
  obtain ⟨first, found, same⟩ := Option.map_eq_some_iff.mp taken
  cases same
  have linked := shape.rest
  rw [found] at linked
  obtain ⟨rest, rfl, later⟩ := linked.first
  have fewer : (queued ++ rest).Sublist (queued ++ msg :: rest) :=
    (List.Sublist.refl queued).append (List.sublist_cons_self msg rest)
  exact ⟨rest, rfl, ⟨shape.queue, later, shape.tail, shape.entry, shape.apart.sublist fewer⟩, rfl, rfl⟩

theorem takeFree_none (shape : mq.Shape queued free) (full : mq.takeFree = none) : free = [] :=
  shape.rest.none_iff.mp (Option.map_eq_none_iff.mp full)

theorem RtMessageQueue.Shape.fill (shape : mq.Shape queued free) (own : msg ∉ queued ++ free)
    (buffer : Message) (urgent : Bool) : (mq.fill msg buffer urgent).Shape queued free := by
  obtain ⟨notQueued, notFree⟩ := not_or.mp (List.mem_append.not.mp own)
  cases urgent with
  | true => exact ⟨shape.queue, shape.rest, shape.tail, shape.entry, shape.apart⟩
  | false =>
      exact ⟨shape.queue.update notQueued none, shape.rest.update notFree none, shape.tail,
        shape.entry, shape.apart⟩

theorem apart_link (apart : (queued ++ free).Nodup) (own : msg ∉ queued ++ free) :
    (queued ++ [msg] ++ free).Nodup := by
  have moved : (queued ++ [msg] ++ free).Perm (msg :: (queued ++ free)) := by
    rw [List.append_assoc]
    exact List.perm_middle
  exact moved.nodup_iff.mpr (List.nodup_cons.mpr ⟨own, apart⟩)

theorem RtMessageQueue.Shape.linkTail (shape : mq.Shape queued free) (own : msg ∉ queued ++ free)
    (ends : mq.next msg = none) (room : queued.length + 1 < 65536) :
    (mq.linkTail msg).Shape (queued ++ [msg]) free := by
  obtain ⟨notQueued, notFree⟩ := not_or.mp (List.mem_append.not.mp own)
  have entry : (mq.entry + 1).toNat = (queued ++ [msg]).length := by
    rw [BitVec.toNat_add, shape.entry, List.length_append]
    exact Nat.mod_eq_of_lt room
  have tail : some msg = (queued ++ [msg]).getLast? := by simp
  have apart := apart_link shape.apart own
  cases isLast : mq.msgQueueTail with
  | none =>
      have empty : queued = [] := List.getLast?_eq_none_iff.mp (shape.tail.symm.trans isLast)
      subst empty
      have headless := shape.queue
      refine ⟨?_, ?_, tail, entry, apart⟩
      · simp only [RtMessageQueue.linkTail, isLast, headless.none_iff.mpr rfl, if_true]
        exact ⟨rfl, ends⟩
      · simp only [RtMessageQueue.linkTail, isLast]
        exact shape.rest
  | some last =>
      have lastQueued : queued.getLast? = some last := shape.tail.symm.trans isLast
      have inside := List.mem_of_getLast? lastQueued
      have headed : mq.msgQueueHead ≠ none := by
        intro none
        rw [shape.queue.none_iff.mp none] at inside
        cases inside
      have lastElsewhere : last ∉ free :=
        fun member => (List.nodup_append.mp shape.apart).2.2 last inside last member rfl
      refine ⟨?_, ?_, tail, entry, apart⟩
      · simp only [RtMessageQueue.linkTail, isLast, if_neg headed]
        exact shape.queue.append (List.nodup_append.mp shape.apart).1 notQueued ends lastQueued
      · simp only [RtMessageQueue.linkTail, isLast]
        exact shape.rest.update lastElsewhere _

theorem RtMessageQueue.Shape.linkHead (shape : mq.Shape queued free) (own : msg ∉ queued ++ free)
    (room : queued.length + 1 < 65536) : (mq.linkHead msg).Shape (msg :: queued) free := by
  obtain ⟨notQueued, notFree⟩ := not_or.mp (List.mem_append.not.mp own)
  refine ⟨shape.queue.push notQueued, shape.rest.update notFree _, ?_, ?_,
    List.nodup_cons.mpr ⟨own, shape.apart⟩⟩
  · simp only [RtMessageQueue.linkHead, shape.tail]
    cases queued with
    | nil => rfl
    | cons first more =>
        rw [List.getLast?_cons_cons, if_neg]
        simp
  · simp only [RtMessageQueue.linkHead, BitVec.toNat_add, shape.entry, List.length_cons]
    exact Nat.mod_eq_of_lt room

theorem RtMessageQueue.Shape.unlinkHead (shape : mq.Shape queued free) (some : mq.entry ≠ 0) :
    ∃ msg rest after, queued = msg :: rest ∧ mq.unlinkHead = .some (msg, after) ∧
      after.Shape rest free ∧ after.body = mq.body ∧ after.suspendThread = mq.suspendThread := by
  cases queued with
  | nil =>
      have none : mq.entry.toNat = 0 := shape.entry
      exact absurd (BitVec.eq_of_toNat_eq none) some
  | cons msg rest =>
      obtain ⟨head, later⟩ := shape.queue
      have apart : (rest ++ free).Nodup := (List.nodup_cons.mp shape.apart).2
      have entry : (mq.entry - 1).toNat = rest.length := by
        have before := shape.entry
        rw [List.length_cons] at before
        bv_omega
      refine ⟨msg, rest, _, rfl, congrArg (Option.map _) head, ?_, rfl, rfl⟩
      refine ⟨later, shape.rest, ?_, entry, apart⟩
      simp only [shape.tail]
      cases rest with
      | nil => simp
      | cons second more =>
          rw [List.getLast?_cons_cons, if_neg]
          intro same
          have inside := List.mem_of_getLast? same
          exact (List.nodup_cons.mp shape.apart).1 (List.mem_append_left _ inside)

theorem RtMessageQueue.Shape.putFree (shape : mq.Shape queued free) (own : msg ∉ queued ++ free) :
    (mq.putFree msg).Shape queued (msg :: free) := by
  obtain ⟨notQueued, notFree⟩ := not_or.mp (List.mem_append.not.mp own)
  refine ⟨shape.queue.update notQueued _, shape.rest.push notFree, shape.tail, shape.entry, ?_⟩
  exact List.perm_middle.nodup_iff.mpr (List.nodup_cons.mpr ⟨own, shape.apart⟩)

end Shapes

end ZhuoduControl.Queue
