import ZhuoduControl.Data.Word
import ZhuoduControl.Library.InsertBefore
import ZhuoduControl.Library.Run

/-! The lists of suspended threads that the objects of the kernel share, and the
semaphore. -/

set_option autoImplicit false

namespace ZhuoduControl.Kernel

open ZhuoduControl.Library
open ZhuoduControl.Data

/-- `RT_IPC_FLAG_FIFO` and `RT_IPC_FLAG_PRIO` -/
inductive IpcFlag
  | fifo
  | prio
deriving DecidableEq, Repr

section Suspension

variable {Node : Type}

/-- A smaller number is a higher priority. -/
def rtIpcListSuspend (flag : IpcFlag) (priority : Node → Nat) (node : Node)
    (list : List Node) : List Node :=
  match flag with
  | .fifo => list ++ [node]
  | .prio => insertBefore (fun other => decide (priority node < priority other)) node list

variable {flag : IpcFlag} {priority : Node → Nat} {node other : Node} {list : List Node}

theorem rtIpcListSuspend_perm : (rtIpcListSuspend flag priority node list).Perm (node :: list) := by
  cases flag with
  | fifo => exact List.perm_append_singleton node list
  | prio => exact insertBefore_perm

theorem mem_rtIpcListSuspend :
    other ∈ rtIpcListSuspend flag priority node list ↔ other = node ∨ other ∈ list :=
  rtIpcListSuspend_perm.mem_iff.trans List.mem_cons

/-- Only the priorities of the threads themselves count. -/
theorem rtIpcListSuspend_congr {others : Node → Nat}
    (same : ∀ one ∈ node :: list, priority one = others one) :
    rtIpcListSuspend flag priority node list = rtIpcListSuspend flag others node list := by
  cases flag with
  | fifo => rfl
  | prio =>
      refine insertBefore_congr fun one member => ?_
      rw [same node (.head _), same one (.tail _ member)]

/-- The threads wait in the order of their priorities, if that is what the object does. -/
def InOrder (flag : IpcFlag) (priority : Node → Nat) (list : List Node) : Prop :=
  flag = .prio → list.Pairwise fun first second => priority first ≤ priority second

theorem InOrder.suspend (ordered : InOrder flag priority list) (node : Node) :
    InOrder flag priority (rtIpcListSuspend flag priority node list) := by
  rintro rfl
  refine insertBefore_pairwise (ordered rfl) ?_ ?_ ?_
  · intro other _ stopped
    exact Nat.le_of_lt (of_decide_eq_true stopped)
  · intro other _ passed
    exact Nat.le_of_not_lt (of_decide_eq_false passed)
  · intro other _ next _ stopped before
    exact decide_eq_true (Nat.lt_of_lt_of_le (of_decide_eq_true stopped) before)

theorem InOrder.sublist {fewer : List Node} (ordered : InOrder flag priority list)
    (sublist : fewer.Sublist list) : InOrder flag priority fewer :=
  fun prio => (ordered prio).sublist sublist

/-- One thread is resumed before another: the one that came first, or the one with the higher
priority and of two with the same the one that came first. -/
def Ahead (flag : IpcFlag) (priority since : Node → Nat) (first second : Node) : Prop :=
  match flag with
  | .fifo => since first < since second
  | .prio => priority first < priority second ∨
      priority first = priority second ∧ since first < since second

/-- The threads wait in the order of the flag of the object. `since` counts the suspensions
before the last one of a thread, of which there have been `now`. -/
structure Queued {Thread : Type} (flag : IpcFlag) (priority : Node → Nat) (thread : Node → Thread)
    (since : Thread → Nat) (now : Nat) (list : List Node) : Prop where
  ahead : list.Pairwise (Ahead flag priority fun waiting => since (thread waiting))
  earlier : ∀ waiting ∈ list, since (thread waiting) < now

variable {Thread : Type} {thread : Node → Thread} {since : Thread → Nat} {now : Nat}

theorem Queued.nil : Queued flag priority thread since now [] := ⟨List.Pairwise.nil, nofun⟩

theorem Queued.sublist {fewer : List Node} (queued : Queued flag priority thread since now list)
    (sublist : fewer.Sublist list) : Queued flag priority thread since now fewer :=
  ⟨queued.ahead.sublist sublist, fun waiting member => queued.earlier waiting (sublist.subset member)⟩

theorem Ahead.of_since {since before : Node → Nat} {first second : Node}
    (ahead : Ahead flag priority before first second) (one : since first = before first)
    (two : since second = before second) : Ahead flag priority since first second := by
  unfold Ahead at ahead ⊢
  rw [one, two]
  exact ahead

theorem ahead_suspend {since : Node → Nat} (ahead : list.Pairwise (Ahead flag priority since))
    (last : ∀ other ∈ list, since other < since node) :
    (rtIpcListSuspend flag priority node list).Pairwise (Ahead flag priority since) := by
  cases flag with
  | fifo =>
      refine List.pairwise_append.mpr ⟨ahead, List.pairwise_singleton _ _, ?_⟩
      intro other member next single
      cases List.mem_singleton.mp single
      exact last other member
  | prio =>
      refine insertBefore_pairwise ahead ?_ ?_ ?_
      · intro other _ stopped
        exact .inl (of_decide_eq_true stopped)
      · intro other member passed
        have behind := Nat.le_of_not_lt (of_decide_eq_false passed)
        rcases Nat.lt_or_eq_of_le behind with higher | same
        · exact .inl higher
        · exact .inr ⟨same, last other member⟩
      · intro other _ next _ stopped ahead
        have higher := of_decide_eq_true stopped
        rcases ahead with later | ⟨same, _⟩
        · exact decide_eq_true (Nat.lt_trans higher later)
        · exact decide_eq_true (same ▸ higher)

/-- The thread that comes is behind all others that its priority lets it be behind. -/
theorem Queued.suspend [DecidableEq Thread] (queued : Queued flag priority thread since now list)
    (node : Node) (awake : ∀ other ∈ list, thread other ≠ thread node) :
    Queued flag priority thread (Function.update since (thread node) now) (now + 1)
      (rtIpcListSuspend flag priority node list) := by
  have own : Function.update since (thread node) now (thread node) = now :=
    Function.update_self ..
  have kept (other : Node) (member : other ∈ list) :
      Function.update since (thread node) now (thread other) = since (thread other) :=
    Function.update_of_ne (awake other member) ..
  constructor
  · refine ahead_suspend ?_ ?_
    · refine queued.ahead.imp_of_mem fun one two ahead => ?_
      exact ahead.of_since (kept _ one) (kept _ two)
    · intro other member
      rw [kept other member, own]
      exact queued.earlier other member
  · intro other member
    rcases mem_rtIpcListSuspend.mp member with rfl | waiting
    · rw [own]
      exact Nat.lt_succ_self now
    · rw [kept other waiting]
      exact Nat.lt_succ_of_lt (queued.earlier other waiting)

end Suspension

structure RtSemaphore (Thread : Type) where
  value : U16
  suspendThread : List Thread
deriving DecidableEq, Repr

inductive Taking
  | taken
  | timedOut
  | suspended
deriving DecidableEq, Repr

section Operations

variable {Thread : Type} (flag : IpcFlag) (priority : Thread → Nat)

/-- `waits` is a time other than 0. -/
def rtSemTake (sem : RtSemaphore Thread) (thread : Thread) (waits : Bool) :
    RtSemaphore Thread × Taking :=
  if sem.value ≠ 0 then ({ sem with value := sem.value - 1 }, .taken)
  else if waits then
    ({ sem with suspendThread := rtIpcListSuspend flag priority thread sem.suspendThread }, .suspended)
  else (sem, .timedOut)

/-- Beside the semaphore the thread that is resumed, if any. -/
def rtSemRelease (sem : RtSemaphore Thread) : RtSemaphore Thread × Option Thread :=
  match sem.suspendThread with
  | [] => ({ sem with value := sem.value + 1 }, none)
  | thread :: rest => ({ sem with suspendThread := rest }, some thread)

end Operations

section Runs

variable {Thread : Type} [DecidableEq Thread] (flag : IpcFlag) (priority : Thread → Nat)

/-- A thread that is suspended takes nothing else; its timer may resume it. -/
inductive SemLabel (Thread : Type)
  | take (thread : Thread) (waits : Bool)
  | release
  | timeout (thread : Thread)

/-- Beside the semaphore what has happened so far, and when each thread was suspended last. -/
structure SemHistory (Thread : Type) where
  sem : RtSemaphore Thread
  /-- those who got the semaphore, in order -/
  granted : List Thread
  released : Nat
  /-- how often `value` went past its 16 bits -/
  overflows : Nat
  since : Thread → Nat
  suspensions : Nat

def SemHistory.start (value : U16) : SemHistory Thread := ⟨⟨value, []⟩, [], 0, 0, fun _ => 0, 0⟩

def SemHistory.step (history : SemHistory Thread) : SemLabel Thread → Option (SemHistory Thread)
  | .take thread waits =>
      if thread ∈ history.sem.suspendThread then none
      else
        match rtSemTake flag priority history.sem thread waits with
        | (sem, .taken) => some { history with sem := sem, granted := history.granted ++ [thread] }
        | (sem, .timedOut) => some { history with sem := sem }
        | (sem, .suspended) =>
            some { history with
              sem := sem
              since := Function.update history.since thread history.suspensions
              suspensions := history.suspensions + 1 }
  | .release =>
      let (sem, resumed) := rtSemRelease history.sem
      let wraps := history.sem.suspendThread = [] ∧ history.sem.value = 0xFFFF
      some { history with
        sem := sem
        granted := history.granted ++ resumed.toList
        released := history.released + 1
        overflows := if wraps then history.overflows + 1 else history.overflows }
  | .timeout thread =>
      if thread ∈ history.sem.suspendThread then
        some { history with sem := { history.sem with
          suspendThread := history.sem.suspendThread.erase thread } }
      else none

/-- Every grant is paid for by the initial value or a release, nobody waits for what is there,
and those who wait do so once and in their order. -/
structure SemHistory.Sound (initial : U16) (history : SemHistory Thread) : Prop where
  balance : history.sem.value.toNat + history.granted.length + 65536 * history.overflows =
    initial.toNat + history.released
  busy : history.sem.suspendThread ≠ [] → history.sem.value = 0
  queued : Queued flag priority (fun thread => thread) history.since history.suspensions
    history.sem.suspendThread
  apart : history.sem.suspendThread.Nodup

variable {flag priority} {initial : U16} {history next : SemHistory Thread}

theorem SemHistory.Sound.take (sound : history.Sound flag priority initial) (thread : Thread)
    (waits : Bool) (stepped : history.step flag priority (.take thread waits) = some next) :
    next.Sound flag priority initial := by
  obtain ⟨balance, busy, queued, apart⟩ := sound
  simp only [SemHistory.step] at stepped
  split at stepped
  · cases stepped
  · next awake =>
    unfold rtSemTake at stepped
    by_cases available : history.sem.value ≠ 0
    · have empty : history.sem.suspendThread = [] :=
        Classical.byContradiction fun waiting => available (busy waiting)
      have smaller : (history.sem.value - 1).toNat + 1 = history.sem.value.toNat := by
        bv_omega
      rw [if_pos available] at stepped
      cases stepped
      refine ⟨?_, fun waiting => absurd empty waiting, queued, apart⟩
      simp only [List.length_append, List.length_singleton]
      omega
    · rw [if_neg available] at stepped
      cases waits with
      | false =>
          cases stepped
          exact ⟨balance, busy, queued, apart⟩
      | true =>
          cases stepped
          refine ⟨balance, fun _ => Classical.not_not.mp available, queued.suspend thread ?_, ?_⟩
          · rintro other member rfl
            exact awake member
          · exact rtIpcListSuspend_perm.nodup_iff.mpr (List.nodup_cons.mpr ⟨awake, apart⟩)

theorem SemHistory.Sound.release (sound : history.Sound flag priority initial)
    (stepped : history.step flag priority .release = some next) :
    next.Sound flag priority initial := by
  obtain ⟨balance, busy, queued, apart⟩ := sound
  simp only [SemHistory.step, rtSemRelease] at stepped
  cases suspended : history.sem.suspendThread with
  | nil =>
      simp only [suspended, true_and, Option.toList, List.append_nil] at stepped
      cases stepped
      refine ⟨?_, fun waiting => absurd rfl waiting, .nil, List.nodup_nil⟩
      by_cases full : history.sem.value = 0xFFFF
      · rw [full] at balance ⊢
        simp only [if_true]
        have before : (0xFFFF : U16).toNat = 65535 := rfl
        have after : (0xFFFF + 1 : U16).toNat = 0 := rfl
        omega
      · rw [if_neg full]
        have larger : (history.sem.value + 1).toNat = history.sem.value.toNat + 1 := by
          bv_omega
        simp only
        omega
  | cons thread rest =>
      rw [suspended] at busy queued apart
      simp only [suspended, reduceCtorEq, false_and, if_false, Option.toList] at stepped
      cases stepped
      refine ⟨?_, fun _ => busy (List.cons_ne_nil _ _), ?_, (List.nodup_cons.mp apart).2⟩
      · simp only [List.length_append, List.length_singleton]
        omega
      · exact queued.sublist (List.sublist_cons_self thread rest)

theorem SemHistory.Sound.step (sound : history.Sound flag priority initial)
    {label : SemLabel Thread} (stepped : history.step flag priority label = some next) :
    next.Sound flag priority initial := by
  cases label with
  | take thread waits => exact sound.take thread waits stepped
  | release => exact sound.release stepped
  | timeout thread =>
      simp only [SemHistory.step] at stepped
      split at stepped
      · next waiting =>
        cases stepped
        have some : history.sem.suspendThread ≠ [] := List.ne_nil_of_mem waiting
        exact ⟨sound.balance, fun _ => sound.busy some, sound.queued.sublist List.erase_sublist,
          sound.apart.sublist List.erase_sublist⟩
      · cases stepped

/-- In every order of takes, releases and timeouts a semaphore grants what it held at first and
what was released, no more and nothing twice, no thread waits while its value is not 0, and the
waiters stand in the order of the flag. -/
theorem semaphore_sound (flag : IpcFlag) (priority : Thread → Nat) (initial : U16)
    (labels : List (SemLabel Thread)) :
    Run.AllSteps (SemHistory.step flag priority)
      (fun _ _ after => after.Sound flag priority initial) (.start initial) labels :=
  Run.allSteps_invariant (fun _ _ _ sound stepped => sound.step stepped) labels
    ⟨rfl, fun waiting => absurd rfl waiting, .nil, List.nodup_nil⟩

end Runs

end ZhuoduControl.Kernel
