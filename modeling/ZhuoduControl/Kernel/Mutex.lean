import Mathlib.Logic.Function.Basic
import ZhuoduControl.Kernel.Semaphore

/-! The mutex of the kernel: one owner that may take it again, and that runs with the
priority of the most urgent thread behind it. -/

set_option autoImplicit false

namespace ZhuoduControl.Kernel

open ZhuoduControl.Library
open ZhuoduControl.Data

structure RtMutex (Thread : Type) where
  value : U16
  originalPriority : U8
  hold : U8
  owner : Option Thread
  suspendThread : List Thread

/-- The mutex and `current_priority` of the threads, where a smaller number is more urgent. -/
structure MutexState (Thread : Type) where
  mutex : RtMutex Thread
  currentPriority : Thread → U8

section Operations

variable {Thread : Type} [DecidableEq Thread]

def rtMutexInit : RtMutex Thread := ⟨1, 0xFF, 0, none, []⟩

/-- `RT_THREAD_CTRL_CHANGE_PRIORITY` -/
def MutexState.changePriority (state : MutexState Thread) (thread : Thread) (priority : U8) :
    MutexState Thread :=
  { state with currentPriority := Function.update state.currentPriority thread priority }

/-- The owner is lifted to a more urgent thread; a mutex that is not free has an owner. -/
def MutexState.inherit (state : MutexState Thread) (thread : Thread) : MutexState Thread :=
  match state.mutex.owner with
  | none => state
  | some owner =>
      if state.currentPriority thread < state.currentPriority owner then
        state.changePriority owner (state.currentPriority thread)
      else state

def MutexState.suspend (flag : IpcFlag) (state : MutexState Thread) (thread : Thread) :
    MutexState Thread :=
  { state with mutex := { state.mutex with
      suspendThread := rtIpcListSuspend flag (fun other => (state.currentPriority other).toNat)
        thread state.mutex.suspendThread } }

/-- `waits` is a time other than 0. -/
def rtMutexTake (flag : IpcFlag) (state : MutexState Thread) (thread : Thread) (waits : Bool) :
    MutexState Thread × Taking :=
  if state.mutex.owner = some thread then
    ({ state with mutex := { state.mutex with hold := state.mutex.hold + 1 } }, .taken)
  else if state.mutex.value ≠ 0 then
    ({ state with mutex := { state.mutex with
        value := state.mutex.value - 1
        owner := some thread
        originalPriority := state.currentPriority thread
        hold := state.mutex.hold + 1 } }, .taken)
  else if waits then ((state.inherit thread).suspend flag thread, .suspended)
  else (state, .timedOut)

/-- The last release: the next thread becomes the owner, or nobody. -/
def MutexState.pass (state : MutexState Thread) : MutexState Thread :=
  match state.mutex.suspendThread with
  | [] =>
      { state with mutex := { state.mutex with
          value := state.mutex.value + 1
          owner := none
          originalPriority := 0xFF } }
  | thread :: rest =>
      { state with mutex := { state.mutex with
          owner := some thread
          originalPriority := state.currentPriority thread
          hold := state.mutex.hold + 1
          suspendThread := rest } }

/-- Beside the state whether the thread was the owner. -/
def rtMutexRelease (state : MutexState Thread) (thread : Thread) : MutexState Thread × Bool :=
  if state.mutex.owner = some thread then
    let less := { state with mutex := { state.mutex with hold := state.mutex.hold - 1 } }
    if less.mutex.hold = 0 then
      if less.mutex.originalPriority ≠ less.currentPriority thread then
        ((less.changePriority thread less.mutex.originalPriority).pass, true)
      else (less.pass, true)
    else (less, true)
  else (state, false)

end Operations

section Runs

variable {Thread : Type} [DecidableEq Thread] (flag : IpcFlag)

inductive MutexLabel (Thread : Type)
  | take (thread : Thread) (waits : Bool)
  | release (thread : Thread)
  | timeout (thread : Thread)

structure MutexHistory (Thread : Type) where
  state : MutexState Thread
  /-- how often a thread has taken the mutex and not released it -/
  depth : Thread → Nat

def MutexHistory.start (base : Thread → U8) : MutexHistory Thread :=
  ⟨⟨rtMutexInit, base⟩, fun _ => 0⟩

/-- What a take, at once or by being resumed, does to the depth. -/
def deepen (depth : Thread → Nat) (thread : Thread) : Thread → Nat :=
  Function.update depth thread (depth thread + 1)

def MutexHistory.step (history : MutexHistory Thread) : MutexLabel Thread →
    Option (MutexHistory Thread)
  | .take thread waits =>
      if thread ∈ history.state.mutex.suspendThread then none
      else
        let (state, taking) := rtMutexTake flag history.state thread waits
        some ⟨state, if taking = .taken then deepen history.depth thread else history.depth⟩
  | .release thread =>
      if thread ∈ history.state.mutex.suspendThread then none
      else
        let (state, released) := rtMutexRelease history.state thread
        let less := if released then
          Function.update history.depth thread (history.depth thread - 1) else history.depth
        -- a new owner is one that was suspended
        match state.mutex.owner with
        | none => some ⟨state, less⟩
        | some owner =>
            some ⟨state, if history.state.mutex.owner ≠ some owner then deepen less owner else less⟩
  | .timeout thread =>
      if thread ∈ history.state.mutex.suspendThread then
        some { history with state := { history.state with mutex := { history.state.mutex with
          suspendThread := history.state.mutex.suspendThread.erase thread } } }
      else none

/-- The owner does not take the mutex for the 256th time in a row. -/
def MutexHistory.NotDeep (history : MutexHistory Thread) : MutexLabel Thread → Prop
  | .take thread _ => history.state.mutex.owner = some thread → history.state.mutex.hold ≠ 0xFF
  | .release _ => True
  | .timeout _ => True

instance (history : MutexHistory Thread) : ∀ label, Decidable (history.NotDeep label)
  | .take _ _ => inferInstanceAs (Decidable (_ → _))
  | .release _ => .isTrue trivial
  | .timeout _ => .isTrue trivial

/-- One thread at most has the mutex; it runs with its own priority or a more urgent one, and by
priority with one as urgent as all who wait; the others run with their own. -/
structure MutexHistory.Sound (base : Thread → U8) (history : MutexHistory Thread) : Prop where
  depth : ∀ thread, history.depth thread =
    if history.state.mutex.owner = some thread then history.state.mutex.hold.toNat else 0
  held : history.state.mutex.hold = 0 ↔ history.state.mutex.owner = none
  value : history.state.mutex.value = if history.state.mutex.owner = none then 1 else 0
  outside : ∀ owner, history.state.mutex.owner = some owner →
    owner ∉ history.state.mutex.suspendThread
  busy : history.state.mutex.owner = none → history.state.mutex.suspendThread = []
  restored : ∀ thread, history.state.mutex.owner ≠ some thread →
    history.state.currentPriority thread = base thread
  original : ∀ owner, history.state.mutex.owner = some owner →
    history.state.mutex.originalPriority = base owner
  raised : ∀ owner, history.state.mutex.owner = some owner →
    history.state.currentPriority owner ≤ base owner
  inherits : flag = .prio → ∀ owner, history.state.mutex.owner = some owner →
    ∀ thread ∈ history.state.mutex.suspendThread,
      history.state.currentPriority owner ≤ base thread
  ordered : InOrder flag (fun thread => (base thread).toNat) history.state.mutex.suspendThread
  apart : history.state.mutex.suspendThread.Nodup

variable {flag} {base : Thread → U8} {history next : MutexHistory Thread}

theorem MutexHistory.Sound.takeAgain (sound : history.Sound flag base) {thread : Thread}
    (own : history.state.mutex.owner = some thread) (shallow : history.state.mutex.hold ≠ 0xFF) :
    MutexHistory.Sound flag base
      ⟨{ history.state with mutex := { history.state.mutex with
          hold := history.state.mutex.hold + 1 } }, deepen history.depth thread⟩ := by
  have larger : (history.state.mutex.hold + 1).toNat = history.state.mutex.hold.toNat + 1 := by
    bv_omega
  refine { sound with depth := fun other => ?_, held := ?_ }
  · have before := sound.depth other
    simp only [own] at before ⊢
    by_cases same : thread = other
    · subst same
      rw [deepen, Function.update_self, before, if_pos rfl, if_pos rfl, larger]
    · have other : some thread ≠ some other := fun taken => same (Option.some.inj taken)
      rw [deepen, Function.update_of_ne (Ne.symm same), before, if_neg other, if_neg other]
  · simp only [own, reduceCtorEq, iff_false]
    intro none
    rw [none] at larger
    cases larger

theorem MutexHistory.Sound.takeFree (sound : history.Sound flag base)
    (free : history.state.mutex.owner = none) (thread : Thread) :
    MutexHistory.Sound flag base
      ⟨{ history.state with mutex := { history.state.mutex with
          value := history.state.mutex.value - 1
          owner := some thread
          originalPriority := history.state.currentPriority thread
          hold := history.state.mutex.hold + 1 } }, deepen history.depth thread⟩ := by
  have hold := sound.held.mpr free
  have value := sound.value
  have empty := sound.busy free
  have own : history.state.currentPriority thread = base thread :=
    sound.restored thread fun other => nomatch free.symm.trans other
  rw [if_pos free] at value
  refine { sound with
    depth := fun other => ?_, held := ?_, value := ?_, outside := ?_, busy := ?_, restored := ?_
    original := ?_, raised := ?_, inherits := ?_ }
  · have before := sound.depth other
    simp only [free, reduceCtorEq, if_false] at before
    by_cases same : thread = other
    · subst same
      simp only [deepen, Function.update_self, before, hold, if_true]
      rfl
    · simp [deepen, Function.update_of_ne (Ne.symm same), before, same]
  · simp only [hold, reduceCtorEq, iff_false]
    decide
  · simp only [value, reduceCtorEq, if_false]
    decide
  · intro owner _
    simp only [empty]
    exact List.not_mem_nil
  · exact fun none => nomatch none
  · intro other _
    exact sound.restored other fun taken => nomatch free.symm.trans taken
  · intro owner taken
    cases taken
    exact own
  · intro owner taken
    cases taken
    exact own ▸ BitVec.le_refl _
  · intro _ owner _ other member
    simp only [empty] at member
    cases member

/-- The owner ends up at least as urgent as the thread, and not less than before. -/
theorem inherit_spec {state : MutexState Thread} {owner : Thread}
    (own : state.mutex.owner = some owner) (thread : Thread) :
    ∃ lifted, state.inherit thread = state.changePriority owner lifted ∧
      lifted ≤ state.currentPriority owner ∧ lifted ≤ state.currentPriority thread := by
  simp only [MutexState.inherit, own]
  by_cases urgent : state.currentPriority thread < state.currentPriority owner
  · rw [if_pos urgent]
    exact ⟨_, rfl, BitVec.le_of_lt urgent, BitVec.le_refl _⟩
  · rw [if_neg urgent]
    refine ⟨state.currentPriority owner, ?_, BitVec.le_refl _, BitVec.not_lt.mp urgent⟩
    rw [MutexState.changePriority, Function.update_eq_self]

theorem MutexHistory.Sound.wait (sound : history.Sound flag base) {owner thread : Thread}
    (own : history.state.mutex.owner = some owner) (different : owner ≠ thread)
    (awake : thread ∉ history.state.mutex.suspendThread) {lifted : U8}
    (kept : lifted ≤ history.state.currentPriority owner)
    (urgent : lifted ≤ history.state.currentPriority thread) :
    MutexHistory.Sound flag base
      ⟨(history.state.changePriority owner lifted).suspend flag thread, history.depth⟩ := by
  have others : ∀ other, owner ≠ other →
      Function.update history.state.currentPriority owner lifted other = base other := by
    intro other apart
    rw [Function.update_of_ne (Ne.symm apart)]
    exact sound.restored other fun taken => apart (Option.some.inj (own.symm.trans taken))
  have outside := sound.outside owner own
  have lined : rtIpcListSuspend flag
      (fun other => (Function.update history.state.currentPriority owner lifted other).toNat) thread
        history.state.mutex.suspendThread =
      rtIpcListSuspend flag (fun other => (base other).toNat) thread
        history.state.mutex.suspendThread := by
    refine rtIpcListSuspend_congr fun one member => ?_
    rcases List.mem_cons.mp member with rfl | waiting
    · rw [others one different]
    · rw [others one fun same => outside (same ▸ waiting)]
  have threadBase : history.state.currentPriority thread = base thread :=
    sound.restored thread fun taken => different (Option.some.inj (own.symm.trans taken))
  unfold MutexState.suspend MutexState.changePriority
  simp only [lined]
  refine { sound with
    outside := ?_, busy := ?_, restored := ?_, raised := ?_, inherits := ?_, ordered := ?_
    apart := ?_ }
  · intro one taken member
    cases Option.some.inj (own.symm.trans taken)
    simp only at member
    rcases mem_rtIpcListSuspend.mp member with same | waiting
    · exact different same
    · exact outside waiting
  · intro none
    cases own.symm.trans none
  · intro other notOwner
    exact others other fun same => notOwner (same ▸ own)
  · intro one taken
    cases Option.some.inj (own.symm.trans taken)
    simp only [Function.update_self]
    exact BitVec.le_trans kept (sound.raised owner own)
  · intro prio one taken other member
    cases Option.some.inj (own.symm.trans taken)
    simp only [Function.update_self] at member ⊢
    rcases mem_rtIpcListSuspend.mp member with rfl | waiting
    · exact threadBase ▸ urgent
    · exact BitVec.le_trans kept (sound.inherits prio owner own other waiting)
  · exact sound.ordered.suspend thread
  · simp only
    exact rtIpcListSuspend_perm.nodup_iff.mpr (List.nodup_cons.mpr ⟨awake, sound.apart⟩)

theorem MutexHistory.Sound.take (sound : history.Sound flag base) {thread : Thread} {waits : Bool}
    (shallow : history.NotDeep (.take thread waits))
    (stepped : history.step flag (.take thread waits) = some next) : next.Sound flag base := by
  simp only [MutexHistory.step] at stepped
  split at stepped
  · cases stepped
  · next awake =>
    cases stepped
    unfold rtMutexTake
    by_cases again : history.state.mutex.owner = some thread
    · simp only [if_pos again, if_true]
      exact sound.takeAgain again (shallow again)
    · rw [if_neg again]
      have value := sound.value
      cases own : history.state.mutex.owner with
      | none =>
          rw [if_pos own] at value
          have available : history.state.mutex.value ≠ 0 := by
            rw [value]
            decide
          simp only [if_pos available, if_true]
          exact sound.takeFree own thread
      | some owner =>
          simp only [own, reduceCtorEq, if_false] at value
          have taken : ¬ history.state.mutex.value ≠ 0 := fun some => some value
          rw [if_neg taken]
          cases waits with
          | false => exact sound
          | true =>
              obtain ⟨lifted, inherited, kept, urgent⟩ := inherit_spec own thread
              simp only [if_true, inherited]
              exact sound.wait own (fun same => again (own.trans (congrArg some same))) awake kept urgent

theorem MutexHistory.sound_start (base : Thread → U8) :
    MutexHistory.Sound flag base (.start base) where
  depth := fun _ => rfl
  held := iff_of_true rfl rfl
  value := rfl
  outside := fun _ none => nomatch none
  busy := fun _ => rfl
  restored := fun _ _ => rfl
  original := fun _ none => nomatch none
  raised := fun _ none => nomatch none
  inherits := fun _ _ none => nomatch none
  ordered := fun _ => List.Pairwise.nil
  apart := List.nodup_nil

/-- The first of those who wait has become the owner. -/
theorem MutexHistory.sound_passed {thread : Thread} {rest : List Thread}
    (ordered : InOrder flag (fun other => (base other).toNat) (thread :: rest))
    (apart : (thread :: rest).Nodup) :
    MutexHistory.Sound flag base
      ⟨⟨⟨0, base thread, 1, some thread, rest⟩, base⟩, deepen (fun _ => 0) thread⟩ where
  depth := by
    intro other
    by_cases same : thread = other
    · subst same
      simp [deepen]
    · simp [deepen, Function.update_of_ne (Ne.symm same), same]
  held := iff_of_false (by simp) (fun none => nomatch none)
  value := rfl
  outside := by
    intro owner taken
    cases taken
    exact (List.nodup_cons.mp apart).1
  busy := fun none => nomatch none
  restored := fun _ _ => rfl
  original := by
    intro owner taken
    cases taken
    rfl
  raised := fun _ _ => BitVec.le_refl _
  inherits := by
    intro prio owner taken other member
    cases taken
    exact (List.pairwise_cons.mp (ordered prio)).1 other member
  ordered := ordered.sublist (List.sublist_cons_self thread rest)
  apart := (List.nodup_cons.mp apart).2

theorem rtMutexRelease_last {state : MutexState Thread} {thread : Thread}
    (own : state.mutex.owner = some thread) (last : state.mutex.hold = 1) :
    rtMutexRelease state thread =
      (MutexState.pass ⟨{ state.mutex with hold := 0 },
        Function.update state.currentPriority thread state.mutex.originalPriority⟩, true) := by
  have zero : state.mutex.hold - 1 = 0 := by
    rw [last]
    rfl
  simp only [rtMutexRelease, if_pos own, zero, if_true]
  by_cases same : state.mutex.originalPriority ≠ state.currentPriority thread
  · rw [if_pos same]
    rfl
  · rw [if_neg same, Classical.not_not.mp same, Function.update_eq_self]

theorem rtMutexRelease_more {state : MutexState Thread} {thread : Thread}
    (own : state.mutex.owner = some thread) (more : state.mutex.hold ≠ 1) :
    rtMutexRelease state thread =
      (⟨{ state.mutex with hold := state.mutex.hold - 1 }, state.currentPriority⟩, true) := by
  have some : state.mutex.hold - 1 ≠ 0 := by
    intro zero
    exact more (by bv_omega)
  simp only [rtMutexRelease, if_pos own, if_neg some]

/-- The owner gets its own priority back. -/
theorem MutexHistory.Sound.priorities (sound : history.Sound flag base) {thread : Thread}
    (own : history.state.mutex.owner = some thread) :
    Function.update history.state.currentPriority thread history.state.mutex.originalPriority =
      base := by
  funext other
  by_cases same : other = thread
  · rw [same, Function.update_self, sound.original thread own]
  · rw [Function.update_of_ne same]
    exact sound.restored other fun taken => same (Option.some.inj (taken.symm.trans own))

theorem MutexHistory.Sound.releaseLast (sound : history.Sound flag base) {thread : Thread}
    (own : history.state.mutex.owner = some thread) (last : history.state.mutex.hold = 1)
    (stepped : history.step flag (.release thread) = some next) : next.Sound flag base := by
  have value := sound.value
  simp only [own, reduceCtorEq, if_false] at value
  have depth : Function.update history.depth thread (history.depth thread - 1) = fun _ => 0 := by
    funext other
    have before := sound.depth other
    rw [own, last] at before
    by_cases same : other = thread
    · subst same
      rw [Function.update_self, before, if_pos rfl]
      rfl
    · rw [Function.update_of_ne same, before, if_neg fun taken => same (Option.some.inj taken).symm]
  have ordered := sound.ordered
  have apart := sound.apart
  have outside := sound.outside thread own
  simp only [MutexHistory.step, if_neg outside, rtMutexRelease_last own last,
    sound.priorities own, MutexState.pass, if_true, depth] at stepped
  cases suspended : history.state.mutex.suspendThread with
  | nil =>
      simp only [suspended, value] at stepped
      cases stepped
      exact MutexHistory.sound_start base
  | cons first rest =>
      rw [suspended] at ordered apart outside
      have different : some thread ≠ some first := by
        intro same
        exact outside (Option.some.inj same ▸ .head _)
      simp only [suspended, value, own, if_pos different] at stepped
      cases stepped
      exact MutexHistory.sound_passed ordered apart

theorem MutexHistory.Sound.releaseMore (sound : history.Sound flag base) {thread : Thread}
    (own : history.state.mutex.owner = some thread) (more : history.state.mutex.hold ≠ 1)
    (stepped : history.step flag (.release thread) = some next) : next.Sound flag base := by
  have some : history.state.mutex.hold ≠ 0 := by
    intro zero
    cases own.symm.trans (sound.held.mp zero)
  have smaller : (history.state.mutex.hold - 1).toNat = history.state.mutex.hold.toNat - 1 := by
    bv_omega
  have left : history.state.mutex.hold - 1 ≠ 0 := by
    intro zero
    exact more (by bv_omega)
  simp only [MutexHistory.step, if_neg (sound.outside thread own), rtMutexRelease_more own more,
    own, if_true, if_neg fun different : Option.some thread ≠ Option.some thread => different rfl]
    at stepped
  cases stepped
  rw [← own]
  refine { sound with depth := fun other => ?_, held := ?_ }
  · have before := sound.depth other
    rw [own] at before
    by_cases same : other = thread
    · subst same
      simp only [Function.update_self, before, if_true, own, smaller]
    · have different : ¬ Option.some thread = Option.some other :=
        fun taken => same (Option.some.inj taken).symm
      simp only [own, Function.update_of_ne same, before, if_neg different]
  · simp only [own, reduceCtorEq, iff_false]
    exact left

theorem MutexHistory.Sound.release (sound : history.Sound flag base) {thread : Thread}
    (stepped : history.step flag (.release thread) = some next) : next.Sound flag base := by
  by_cases own : history.state.mutex.owner = some thread
  · by_cases last : history.state.mutex.hold = 1
    · exact sound.releaseLast own last stepped
    · exact sound.releaseMore own last stepped
  · have refused : rtMutexRelease history.state thread = (history.state, false) := if_neg own
    simp only [MutexHistory.step, refused, Bool.false_eq_true, if_false] at stepped
    split at stepped
    · cases stepped
    · split at stepped
      · cases stepped
        exact sound
      · next owner taken =>
        rw [if_neg fun different => different taken] at stepped
        cases stepped
        exact sound

theorem MutexHistory.Sound.step (sound : history.Sound flag base) {label : MutexLabel Thread}
    (shallow : history.NotDeep label) (stepped : history.step flag label = some next) :
    next.Sound flag base := by
  cases label with
  | take thread waits => exact sound.take shallow stepped
  | release thread => exact sound.release stepped
  | timeout thread =>
      simp only [MutexHistory.step] at stepped
      split at stepped
      · next waiting =>
        cases stepped
        have fewer : (history.state.mutex.suspendThread.erase thread).Sublist
            history.state.mutex.suspendThread := List.erase_sublist
        refine { sound with
          outside := fun owner taken member => sound.outside owner taken (fewer.subset member)
          busy := fun free => ?_
          inherits := fun prio owner taken other member =>
            sound.inherits prio owner taken other (fewer.subset member)
          ordered := sound.ordered.sublist fewer
          apart := sound.apart.sublist fewer }
        rw [sound.busy free] at waiting
        cases waiting
      · cases stepped

/-- In every order of takes, releases and timeouts one thread at most has the mutex, as often as
it took it; while others wait by priority it is as urgent as each of them, and whoever gives the
mutex back has its own priority again. -/
theorem mutex_sound (flag : IpcFlag) (base : Thread → U8) {labels : List (MutexLabel Thread)}
    (shallow : Run.Guarded (MutexHistory.step flag) MutexHistory.NotDeep (.start base) labels) :
    Run.AllSteps (MutexHistory.step flag) (fun _ _ after => after.Sound flag base) (.start base)
      labels :=
  Run.allSteps_of_guarded (fun _ _ _ sound allowed stepped =>
    ⟨sound.step allowed stepped, sound.step allowed stepped⟩) (MutexHistory.sound_start base) shallow

/-- A thread of priority 20 has the mutex while one of priority 5 waits, and gives it back. -/
theorem mutex_sound_inherits :
    Run.AllSteps (MutexHistory.step .prio)
      (fun _ _ after => after.Sound .prio fun low : Bool => if low then 20 else 5)
      (.start fun low : Bool => if low then 20 else 5)
      [.take true true, .take false true, .release true, .release false] := by
  refine mutex_sound .prio _ ?_
  decide

end Runs

end ZhuoduControl.Kernel
