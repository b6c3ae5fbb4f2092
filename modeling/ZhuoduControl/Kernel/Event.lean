import ZhuoduControl.Kernel.Semaphore

/-! The event object of the kernel: a set of bits and the threads that wait for some of
them. -/

set_option autoImplicit false

namespace ZhuoduControl.Kernel

open ZhuoduControl.Library
open ZhuoduControl.Data

/-- The flags of a receiver: `RT_EVENT_FLAG_AND` or else `RT_EVENT_FLAG_OR`, and
`RT_EVENT_FLAG_CLEAR`. -/
structure EventInfo where
  all : Bool
  clear : Bool
deriving DecidableEq, Repr

/-- What a thread waits for, or has received once it is resumed. -/
structure Waiter (Thread : Type) where
  thread : Thread
  eventSet : U32
  eventInfo : EventInfo
deriving DecidableEq, Repr

structure RtEvent (Thread : Type) where
  set : U32
  suspendThread : List (Waiter Thread)
deriving DecidableEq, Repr

section Operations

variable {Thread : Type}

/-- What a thread receives of a set, if its condition is met. -/
def received (set eventSet : U32) (eventInfo : EventInfo) : Option U32 :=
  if eventInfo.all then
    if eventSet &&& set = eventSet then some eventSet else none
  else
    if eventSet &&& set ≠ 0 then some (eventSet &&& set) else none

/-- What the loop of `rt_event_send` leaves. -/
structure Resumed (Thread : Type) where
  event : RtEvent Thread
  resumed : List (Waiter Thread)

/-- The set behind a receiver. -/
def EventInfo.leaves (eventInfo : EventInfo) (set taken : U32) : U32 :=
  if eventInfo.clear then set &&& ~~~taken else set

/-- A thread that clears takes its bits from those behind. -/
def resumeLoop (set : U32) : List (Waiter Thread) → Resumed Thread
  | [] => ⟨⟨set, []⟩, []⟩
  | waiter :: rest =>
      match received set waiter.eventSet waiter.eventInfo with
      | none =>
          let later := resumeLoop set rest
          ⟨⟨later.event.set, waiter :: later.event.suspendThread⟩, later.resumed⟩
      | some taken =>
          let later := resumeLoop (waiter.eventInfo.leaves set taken) rest
          ⟨later.event, { waiter with eventSet := taken } :: later.resumed⟩

def rtEventSend (event : RtEvent Thread) (set : U32) : Resumed Thread :=
  if set = 0 then ⟨event, []⟩ else resumeLoop (event.set ||| set) event.suspendThread

inductive Receiving
  | refused
  | received (recved : U32)
  | timedOut
  | suspended
deriving DecidableEq, Repr

variable (flag : IpcFlag) (priority : Thread → Nat)

/-- `waits` is a time other than 0. A receiver that waits is resumed by a sender or, unless it
waits forever, by its timer. -/
def rtEventRecv (event : RtEvent Thread) (thread : Thread) (set : U32) (option : EventInfo)
    (waits : Bool) : RtEvent Thread × Receiving :=
  if set = 0 then (event, .refused)
  else
    match received event.set set option with
    | some _ => ({ event with set := option.leaves event.set set }, .received (event.set &&& set))
    | none =>
        if waits then
          ({ event with
            suspendThread := rtIpcListSuspend flag (fun waiter => priority waiter.thread)
              ⟨thread, set, option⟩ event.suspendThread }, .suspended)
        else (event, .timedOut)

end Operations

section Waiting

variable {Thread : Type}

/-- Nobody waits for what is there. -/
def RtEvent.NoneMissed (event : RtEvent Thread) : Prop :=
  ∀ waiter ∈ event.suspendThread, received event.set waiter.eventSet waiter.eventInfo = none

/-- `smaller` has no bit that `larger` has not. -/
def Within (smaller larger : U32) : Prop := smaller &&& larger = smaller

theorem within_clear (set taken : U32) : Within (set &&& ~~~taken) set := by
  unfold Within
  rw [BitVec.and_assoc, BitVec.and_comm (~~~taken), ← BitVec.and_assoc, BitVec.and_self]

theorem Within.trans {first second third : U32} (left : Within first second)
    (right : Within second third) : Within first third := by
  unfold Within at left right ⊢
  rw [← left, BitVec.and_assoc, right]

/-- A thread that a set does not wake is not woken by less. -/
theorem received_within {smaller larger eventSet : U32} {eventInfo : EventInfo}
    (within : Within smaller larger) (waits : received larger eventSet eventInfo = none) :
    received smaller eventSet eventInfo = none := by
  have narrower : eventSet &&& smaller &&& larger = eventSet &&& smaller := by
    rw [BitVec.and_assoc, within]
  unfold received at waits ⊢
  cases all : eventInfo.all with
  | true =>
      simp only [all, if_true] at waits ⊢
      by_cases missing : eventSet &&& larger = eventSet
      · rw [if_pos missing] at waits
        cases waits
      · rw [if_neg]
        intro whole
        rw [whole] at narrower
        exact missing narrower
  | false =>
      simp only [all, Bool.false_eq_true, if_false] at waits ⊢
      by_cases disjoint : eventSet &&& larger = 0
      · have none : eventSet &&& smaller = 0 := by
          rw [← narrower, BitVec.and_assoc, BitVec.and_comm smaller, ← BitVec.and_assoc, disjoint]
          exact BitVec.zero_and
        rw [if_neg fun some => some none]
      · rw [if_pos disjoint] at waits
        cases waits

theorem leaves_within (eventInfo : EventInfo) (set taken : U32) :
    Within (eventInfo.leaves set taken) set := by
  unfold EventInfo.leaves
  split
  · exact within_clear set taken
  · exact BitVec.and_self

theorem resumeLoop_within (set : U32) (suspended : List (Waiter Thread)) :
    Within (resumeLoop set suspended).event.set set := by
  induction suspended generalizing set with
  | nil => exact BitVec.and_self
  | cons waiter rest ih =>
      rw [resumeLoop]
      split
      · exact ih set
      · exact (ih _).trans (leaves_within _ set _)

theorem resumeLoop_noneMissed (set : U32) (suspended : List (Waiter Thread)) :
    (resumeLoop set suspended).event.NoneMissed := by
  induction suspended generalizing set with
  | nil => exact fun _ member => nomatch member
  | cons waiter rest ih =>
      rw [resumeLoop]
      split
      · next waits =>
        intro other member
        rcases List.mem_cons.mp member with rfl | later
        · exact received_within (resumeLoop_within set rest) waits
        · exact ih set other later
      · exact ih _

theorem resumeLoop_sublist (set : U32) (suspended : List (Waiter Thread)) :
    (resumeLoop set suspended).event.suspendThread.Sublist suspended := by
  induction suspended generalizing set with
  | nil => exact List.Sublist.refl _
  | cons waiter rest ih =>
      rw [resumeLoop]
      split
      · exact (ih set).cons_cons waiter
      · exact (ih _).cons waiter

end Waiting

section Bits

variable {Thread : Type} (bit : Nat)

/-- A receiver that takes the bit out of the set. -/
def Waiter.takes (waiter : Waiter Thread) : Bool :=
  waiter.eventInfo.clear && waiter.eventSet.getLsbD bit

variable {bit}

theorem Within.getLsbD {smaller larger : U32} (within : Within smaller larger)
    (set : smaller.getLsbD bit = true) : larger.getLsbD bit = true := by
  rw [← within, BitVec.getLsbD_and, Bool.and_eq_true] at set
  exact set.2

theorem within_of_received {set eventSet taken : U32} {eventInfo : EventInfo}
    (given : received set eventSet eventInfo = some taken) : Within taken set := by
  unfold received at given
  split at given
  · split at given
    · next whole =>
      cases given
      exact whole
    · cases given
  · split at given
    · cases given
      rw [Within, BitVec.and_assoc, BitVec.and_self]
    · cases given

/-- A bit stays in the set or goes to one receiver that clears it. -/
theorem leaves_balance {set taken : U32} (within : Within taken set) (eventInfo : EventInfo) :
    ((eventInfo.leaves set taken).getLsbD bit).toNat +
      (eventInfo.clear && taken.getLsbD bit).toNat = (set.getLsbD bit).toNat := by
  unfold EventInfo.leaves
  cases eventInfo.clear with
  | false => rfl
  | true =>
      rw [if_pos rfl, BitVec.getLsbD_and, BitVec.getLsbD_not]
      cases isTaken : taken.getLsbD bit with
      | true =>
          rw [Within.getLsbD within isTaken]
          simp
      | false =>
          by_cases inside : bit < 32
          · simp [inside]
          · rw [BitVec.getLsbD_of_ge set bit (Nat.le_of_not_lt inside)]
            simp

/-- What a receiver clears beyond what it takes is not there. -/
theorem leaves_meet (eventInfo : EventInfo) (set asked : U32) :
    eventInfo.leaves set asked = eventInfo.leaves set (set &&& asked) := by
  unfold EventInfo.leaves
  split
  · refine BitVec.eq_of_getLsbD_eq fun bit inside => ?_
    rw [BitVec.getLsbD_and, BitVec.getLsbD_and, BitVec.getLsbD_not, BitVec.getLsbD_not,
      BitVec.getLsbD_and]
    cases set.getLsbD bit with
    | false => rfl
    | true => rw [Bool.true_and (asked.getLsbD bit)]
  · rfl

theorem resumeLoop_balance (set : U32) (suspended : List (Waiter Thread)) :
    ((resumeLoop set suspended).event.set.getLsbD bit).toNat +
      (resumeLoop set suspended).resumed.countP (Waiter.takes bit) = (set.getLsbD bit).toNat := by
  induction suspended generalizing set with
  | nil => rfl
  | cons waiter rest ih =>
      rw [resumeLoop]
      split
      · exact ih set
      · next taken given =>
        have first := @leaves_balance bit _ _ (within_of_received given) waiter.eventInfo
        have later := ih (waiter.eventInfo.leaves set taken)
        have one : (if Waiter.takes bit { waiter with eventSet := taken } = true then 1 else 0) =
            (waiter.eventInfo.clear && taken.getLsbD bit).toNat := by
          unfold Waiter.takes
          cases waiter.eventInfo.clear && taken.getLsbD bit with
          | false => rfl
          | true => rfl
        simp only [List.countP_cons, one]
        omega

theorem resumeLoop_genuine (set : U32) (suspended : List (Waiter Thread)) :
    ∀ waiter ∈ (resumeLoop set suspended).resumed, Within waiter.eventSet set := by
  induction suspended generalizing set with
  | nil => exact fun _ member => nomatch member
  | cons waiter rest ih =>
      rw [resumeLoop]
      split
      · exact ih set
      · next taken given =>
        intro other member
        rcases List.mem_cons.mp member with rfl | later
        · exact within_of_received given
        · exact (ih _ other later).trans (leaves_within _ set taken)

end Bits

section Runs

variable {Thread : Type} [DecidableEq Thread] (flag : IpcFlag) (priority : Thread → Nat)

inductive EventLabel (Thread : Type)
  | send (set : U32)
  | recv (thread : Thread) (set : U32) (option : EventInfo) (waits : Bool)
  | timeout (thread : Thread)

/-- Beside the object what has happened so far, and when each thread was suspended last. -/
structure EventHistory (Thread : Type) where
  event : RtEvent Thread
  sent : List U32
  /-- what threads have received so far -/
  given : List (Waiter Thread)
  since : Thread → Nat
  suspensions : Nat

def EventHistory.start : EventHistory Thread := ⟨⟨0, []⟩, [], [], fun _ => 0, 0⟩

/-- What a thread finds when `rt_event_recv` has looked at the object. -/
def EventHistory.recv (history : EventHistory Thread) (thread : Thread) (option : EventInfo)
    (event : RtEvent Thread) : Receiving → EventHistory Thread
  | .refused => { history with event := event }
  | .received recved =>
      { history with event := event, given := history.given ++ [⟨thread, recved, option⟩] }
  | .timedOut => { history with event := event }
  | .suspended =>
      { history with
        event := event
        since := Function.update history.since thread history.suspensions
        suspensions := history.suspensions + 1 }

/-- A thread that is suspended receives nothing else; its timer may resume it. -/
def EventHistory.step (history : EventHistory Thread) : EventLabel Thread →
    Option (EventHistory Thread)
  | .send set =>
      let after := rtEventSend history.event set
      some { history with
        event := after.event
        sent := history.sent ++ [set]
        given := history.given ++ after.resumed }
  | .recv thread set option waits =>
      if thread ∈ history.event.suspendThread.map Waiter.thread then none
      else
        let (event, receiving) := rtEventRecv flag priority history.event thread set option waits
        some (history.recv thread option event receiving)
  | .timeout thread =>
      if thread ∈ history.event.suspendThread.map Waiter.thread then
        some { history with event := { history.event with
          suspendThread := history.event.suspendThread.filter fun waiter =>
            waiter.thread ≠ thread } }
      else none

def EventHistory.sentTimes (history : EventHistory Thread) (bit : Nat) : Nat :=
  history.sent.countP (·.getLsbD bit)

/-- No thread waits for what is there, those who wait do so in their order, and no bit reaches
more receivers that clear it than it was sent times. -/
structure EventHistory.Sound (history : EventHistory Thread) : Prop where
  noneMissed : history.event.NoneMissed
  queued : Queued flag (fun waiter => priority waiter.thread) Waiter.thread history.since
    history.suspensions history.event.suspendThread
  apart : (history.event.suspendThread.map Waiter.thread).Nodup
  balance : ∀ bit, (history.event.set.getLsbD bit).toNat +
    history.given.countP (Waiter.takes bit) ≤ history.sentTimes bit
  genuine : ∀ waiter ∈ history.given, ∀ bit, waiter.eventSet.getLsbD bit = true →
    0 < history.sentTimes bit

variable {flag priority} {history next : EventHistory Thread}

omit [DecidableEq Thread] in
theorem rtEventSend_eq {event : RtEvent Thread} {set : U32} (some : set ≠ 0) :
    rtEventSend event set = resumeLoop (event.set ||| set) event.suspendThread := if_neg some

omit [DecidableEq Thread] in
theorem EventHistory.sentTimes_send (set : U32) (bit : Nat) (event : RtEvent Thread)
    (given : List (Waiter Thread)) :
    EventHistory.sentTimes { history with
        event := event, sent := history.sent ++ [set], given := given } bit =
      history.sentTimes bit + (set.getLsbD bit).toNat := by
  unfold EventHistory.sentTimes
  rw [List.countP_append, List.countP_singleton]
  cases set.getLsbD bit with
  | false => rfl
  | true => rfl

theorem EventHistory.Sound.send (sound : history.Sound flag priority) (set : U32)
    (stepped : history.step flag priority (.send set) = some next) :
    next.Sound flag priority := by
  obtain ⟨noneMissed, queued, apart, balance, genuine⟩ := sound
  cases stepped
  by_cases some : set = 0
  · have same : rtEventSend history.event set = ⟨history.event, []⟩ := if_pos some
    rw [same, List.append_nil]
    have counts : ∀ bit, history.sentTimes bit ≤ EventHistory.sentTimes
        { history with sent := history.sent ++ [set] } bit := by
      intro bit
      rw [EventHistory.sentTimes_send]
      exact Nat.le_add_right _ _
    exact ⟨noneMissed, queued, apart, fun bit => Nat.le_trans (balance bit) (counts bit),
      fun waiter member bit taken =>
        Nat.lt_of_lt_of_le (genuine waiter member bit taken) (counts bit)⟩
  · rw [rtEventSend_eq some]
    have kept := resumeLoop_sublist (history.event.set ||| set) history.event.suspendThread
    have joined : ∀ bit, (history.event.set ||| set).getLsbD bit =
        (history.event.set.getLsbD bit || set.getLsbD bit) := fun bit => BitVec.getLsbD_or
    refine ⟨resumeLoop_noneMissed _ _, queued.sublist kept, apart.sublist (kept.map _), ?_, ?_⟩
    · intro bit
      have moved := @resumeLoop_balance _ bit (history.event.set ||| set) history.event.suspendThread
      have before := balance bit
      have either : (history.event.set.getLsbD bit || set.getLsbD bit).toNat ≤
          (history.event.set.getLsbD bit).toNat + (set.getLsbD bit).toNat := by
        cases history.event.set.getLsbD bit with
        | false => simp
        | true => simp
      rw [joined] at moved
      rw [EventHistory.sentTimes_send, List.countP_append]
      simp only
      omega
    · intro waiter member bit taken
      rw [EventHistory.sentTimes_send]
      rcases List.mem_append.mp member with earlier | now
      · exact Nat.lt_of_lt_of_le (genuine waiter earlier bit taken) (Nat.le_add_right _ _)
      · have inside := Within.getLsbD (resumeLoop_genuine _ _ waiter now) taken
        have before := balance bit
        rw [joined, Bool.or_eq_true] at inside
        rcases inside with already | fresh
        · rw [already] at before
          simp only [Bool.toNat_true] at before
          omega
        · rw [fresh]
          simp

omit [DecidableEq Thread] in
/-- A thread that receives at once takes its bits from no other. -/
theorem EventHistory.Sound.receive (sound : history.Sound flag priority) (thread : Thread)
    (set : U32) (option : EventInfo) :
    EventHistory.Sound flag priority { history with
      event := { history.event with set := option.leaves history.event.set set }
      given := history.given ++ [⟨thread, history.event.set &&& set, option⟩] } := by
  obtain ⟨noneMissed, queued, apart, balance, genuine⟩ := sound
  have taking : Within (history.event.set &&& set) history.event.set := by
    rw [Within, BitVec.and_assoc, BitVec.and_comm set, ← BitVec.and_assoc, BitVec.and_self]
  refine ⟨?_, queued, apart, ?_, ?_⟩
  · intro waiter member
    exact received_within (leaves_within option _ set) (noneMissed waiter member)
  · intro bit
    have moved := @leaves_balance bit _ _ taking option
    have before := balance bit
    have one : ([⟨thread, history.event.set &&& set, option⟩] : List (Waiter Thread)).countP
        (Waiter.takes bit) = (option.clear && (history.event.set &&& set).getLsbD bit).toNat := by
      rw [List.countP_singleton, Waiter.takes]
      cases option.clear && (history.event.set &&& set).getLsbD bit with
      | false => rfl
      | true => rfl
    rw [← leaves_meet] at moved
    simp only [List.countP_append, one]
    exact Nat.le_trans (by omega) before
  · intro waiter member bit isTaken
    rcases List.mem_append.mp member with earlier | now
    · exact genuine waiter earlier bit isTaken
    · cases List.mem_singleton.mp now
      have before := balance bit
      rw [Within.getLsbD taking isTaken, Bool.toNat_true] at before
      exact Nat.lt_of_lt_of_le (Nat.lt_of_lt_of_le Nat.one_pos (Nat.le_add_right _ _)) before

theorem EventHistory.Sound.suspend (sound : history.Sound flag priority) {thread : Thread}
    {set : U32} {option : EventInfo}
    (awake : thread ∉ history.event.suspendThread.map Waiter.thread)
    (unmet : received history.event.set set option = none) :
    EventHistory.Sound flag priority { history with
      event := { history.event with
        suspendThread := rtIpcListSuspend flag (fun waiter => priority waiter.thread)
          ⟨thread, set, option⟩ history.event.suspendThread }
      since := Function.update history.since thread history.suspensions
      suspensions := history.suspensions + 1 } := by
  obtain ⟨noneMissed, queued, apart, balance, genuine⟩ := sound
  have others : ∀ waiter ∈ history.event.suspendThread, waiter.thread ≠ thread := by
    rintro waiter member rfl
    exact awake (List.mem_map.mpr ⟨waiter, member, rfl⟩)
  have behind : Queued flag (fun waiter => priority waiter.thread) Waiter.thread
      (Function.update history.since thread history.suspensions) (history.suspensions + 1)
      (rtIpcListSuspend flag (fun waiter => priority waiter.thread)
        (⟨thread, set, option⟩ : Waiter Thread) history.event.suspendThread) :=
    queued.suspend ⟨thread, set, option⟩ others
  refine ⟨?_, behind, ?_, balance, genuine⟩
  · intro waiter member
    simp only at member
    rcases mem_rtIpcListSuspend.mp member with rfl | earlier
    · exact unmet
    · exact noneMissed waiter earlier
  · simp only
    refine (rtIpcListSuspend_perm.map Waiter.thread).nodup_iff.mpr ?_
    exact List.nodup_cons.mpr ⟨awake, apart⟩

theorem EventHistory.Sound.recv (sound : history.Sound flag priority) (thread : Thread) (set : U32)
    (option : EventInfo) (waits : Bool)
    (stepped : history.step flag priority (.recv thread set option waits) = some next) :
    next.Sound flag priority := by
  simp only [EventHistory.step] at stepped
  split at stepped
  · cases stepped
  · next awake =>
    unfold rtEventRecv at stepped
    by_cases nothing : set = 0
    · rw [if_pos nothing] at stepped
      cases stepped
      exact sound
    · rw [if_neg nothing] at stepped
      cases met : received history.event.set set option with
      | none =>
          rw [met] at stepped
          cases waits with
          | true =>
              cases stepped
              exact sound.suspend awake met
          | false =>
              cases stepped
              exact sound
      | some taken =>
          rw [met] at stepped
          cases stepped
          exact sound.receive thread set option

theorem EventHistory.Sound.step (sound : history.Sound flag priority) {label : EventLabel Thread}
    (stepped : history.step flag priority label = some next) : next.Sound flag priority := by
  cases label with
  | send set => exact sound.send set stepped
  | recv thread set option waits => exact sound.recv thread set option waits stepped
  | timeout thread =>
      simp only [EventHistory.step] at stepped
      split at stepped
      · cases stepped
        have fewer : (history.event.suspendThread.filter fun waiter =>
            decide (waiter.thread ≠ thread)).Sublist history.event.suspendThread :=
          List.filter_sublist
        exact ⟨fun waiter member => sound.noneMissed waiter (fewer.subset member),
          sound.queued.sublist fewer, sound.apart.sublist (fewer.map _), sound.balance,
          sound.genuine⟩
      · cases stepped

/-- In every order of sends, receives and timeouts no thread is left waiting for bits that are
there, the waiters stand in the order of the flag, and each bit that a receiver clears was sent
for it alone. -/
theorem event_sound (flag : IpcFlag) (priority : Thread → Nat)
    (labels : List (EventLabel Thread)) :
    Run.AllSteps (EventHistory.step flag priority) (fun _ _ after => after.Sound flag priority)
      .start labels := by
  refine Run.allSteps_invariant (fun _ _ _ sound stepped => sound.step stepped) labels ?_
  exact ⟨fun _ member => (nomatch member), .nil, List.nodup_nil,
    fun bit => by simp [EventHistory.start, EventHistory.sentTimes],
    fun _ member => (nomatch member)⟩

end Runs

end ZhuoduControl.Kernel
