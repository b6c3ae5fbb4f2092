import ZhuoduControl.Library.Ownership
import ZhuoduControl.Library.Run
import ZhuoduControl.Queue.MessageNodes

/-! Threads that send to and receive from one message queue, in every interleaving of
their sections: the history of the sections is one of the abstract queue. -/

set_option autoImplicit false

namespace ZhuoduControl.Queue

open ZhuoduControl.Library
open ZhuoduControl.Data
open ZhuoduControl.Kernel

section Histories

variable {Thread Message : Type}

/-- `rt_mq_urgent` puts its message before the others. -/
def MessageQueue.linkFirst (mq : MessageQueue Message) (message : Message) :
    MessageQueue Message :=
  { mq with queued := message :: mq.queued }

/-- What a section did. -/
inductive MqEvent (Thread Message : Type)
  | took
  | refused
  | linked (message : Message) (urgent : Bool)
  | unlinked (thread : Thread) (message : Message)
  | empty
  | released

inductive MessageQueue.Follows :
    MessageQueue Message → MqEvent Thread Message → MessageQueue Message → Prop
  | took {mq after} (taken : mq.takeNode = some after) : Follows mq .took after
  | refused {mq} (full : mq.takeNode = none) : Follows mq .refused mq
  | sent (mq message) : Follows mq (.linked message false) (mq.link message)
  | urgent (mq message) : Follows mq (.linked message true) (mq.linkFirst message)
  | unlinked {mq message after} (thread) (taken : mq.unlink = some (message, after)) :
      Follows mq (.unlinked thread message) after
  | empty {mq} (nothing : mq.unlink = none) : Follows mq .empty mq
  | released (mq) : Follows mq .released mq.release

/-- A history leads the abstract queue from one state to another. -/
inductive MessageQueue.Replays (start : MessageQueue Message) :
    List (MqEvent Thread Message) → MessageQueue Message → Prop
  | nil : Replays start [] start
  | snoc {history event before after} (earlier : Replays start history before)
      (last : before.Follows event after) : Replays start (history ++ [event]) after

def MqEvent.linked? : MqEvent Thread Message → Option Message
  | .linked message _ => some message
  | _ => none

def MqEvent.unlinked? : MqEvent Thread Message → Option Message
  | .unlinked _ message => some message
  | _ => none

def MqEvent.Urgent : MqEvent Thread Message → Prop
  | .linked _ urgent => urgent = true
  | _ => False

variable {start mq before after : MessageQueue Message} {event : MqEvent Thread Message}
variable {history : List (MqEvent Thread Message)}

theorem filterMap_snoc {First Second : Type} (f : First → Option Second) (items : List First)
    (item : First) : (items ++ [item]).filterMap f = items.filterMap f ++ (f item).toList := by
  rw [List.filterMap_append, List.filterMap_cons, List.filterMap_nil]
  cases f item with
  | none => rfl
  | some value => rfl

theorem MessageQueue.Follows.fifo (follows : before.Follows event after)
    (patient : ¬ event.Urgent) :
    before.queued ++ event.linked?.toList = event.unlinked?.toList ++ after.queued := by
  cases follows with
  | took taken =>
      unfold MessageQueue.takeNode at taken
      split at taken
      · cases taken
      · cases taken
        exact List.append_nil _
  | refused full => exact List.append_nil _
  | empty nothing => exact List.append_nil _
  | released => exact List.append_nil _
  | sent message => rfl
  | urgent message => exact absurd rfl patient
  | unlinked thread taken =>
      unfold MessageQueue.unlink at taken
      split at taken
      · cases taken
      · next found =>
        cases taken
        rw [found]
        exact List.append_nil _

theorem MessageQueue.Follows.perm (follows : before.Follows event after) :
    (before.queued ++ event.linked?.toList).Perm (event.unlinked?.toList ++ after.queued) := by
  by_cases urgent : event.Urgent
  · cases follows with
    | urgent message => exact List.perm_append_singleton message before.queued
    | took taken => cases urgent
    | refused full => cases urgent
    | empty nothing => cases urgent
    | released => cases urgent
    | sent message => cases urgent
    | unlinked thread taken => cases urgent
  · rw [follows.fifo urgent]

/-- Nothing is lost and nothing comes twice. -/
theorem MessageQueue.Replays.perm (replays : start.Replays history mq) :
    (start.queued ++ history.filterMap MqEvent.linked?).Perm
      (history.filterMap MqEvent.unlinked? ++ mq.queued) := by
  induction replays with
  | nil => simp
  | snoc earlier last ih =>
      rw [filterMap_snoc, filterMap_snoc, ← List.append_assoc, List.append_assoc (List.filterMap _ _)]
      refine (ih.append_right _).trans ?_
      rw [List.append_assoc]
      exact last.perm.append_left _

/-- Without urgent messages they come in the order in which they were linked. -/
theorem MessageQueue.Replays.fifo (replays : start.Replays history mq)
    (patient : ∀ event ∈ history, ¬ event.Urgent) :
    start.queued ++ history.filterMap MqEvent.linked? =
      history.filterMap MqEvent.unlinked? ++ mq.queued := by
  induction replays with
  | nil => simp
  | snoc earlier last ih =>
      have before := ih fun event member => patient event (List.mem_append_left _ member)
      have here := last.fifo (patient _ (List.mem_append_right _ (.head _)))
      rw [filterMap_snoc, filterMap_snoc, ← List.append_assoc, before, List.append_assoc, here,
        List.append_assoc]

end Histories

section Threads

variable {Thread Message : Type}

/-- Where a thread is in a send or a receive; a receiver that has a node goes with the message
that it unlinked. -/
inductive MqPhase (Message : Type)
  | idle
  | taken (msg : Nat) (buffer : Message) (urgent : Bool)
  | filled (msg : Nat) (buffer : Message) (urgent : Bool)
  | suspended
  | resumed
  | unlinked (msg : Nat) (message : Message)
  | copied (msg : Nat) (message : Message)

def MqPhase.node : MqPhase Message → Option Nat
  | .taken msg _ _ => some msg
  | .filled msg _ _ => some msg
  | .unlinked msg _ => some msg
  | .copied msg _ => some msg
  | .idle => none
  | .suspended => none
  | .resumed => none

structure MqSystem (Thread Message : Type) where
  mq : RtMessageQueue Thread Message
  phase : Thread → MqPhase Message
  /-- the threads that were resumed and have not looked at the queue since -/
  resumed : List Thread
  history : List (MqEvent Thread Message)

/-- The sections of a thread, and its timer. A receiver does not wait that has no time, or none
left when it is resumed. -/
inductive MqLabel (Thread Message : Type)
  | send (thread : Thread) (buffer : Message) (urgent : Bool)
  | fill (thread : Thread)
  | link (thread : Thread)
  | recv (thread : Thread) (waits : Bool)
  | copy (thread : Thread)
  | release (thread : Thread)
  | timeout (thread : Thread)

namespace MqSystem

def start (maxMsgs : U16) (body : Nat → Message) : MqSystem Thread Message :=
  ⟨.rtMqInit maxMsgs body, fun _ => .idle, [], []⟩

variable [DecidableEq Thread] (flag : IpcFlag) (priority : Thread → Nat)
variable (system : MqSystem Thread Message)

def move (thread : Thread) (phase : MqPhase Message) : MqSystem Thread Message :=
  { system with phase := Function.update system.phase thread phase }

def log (event : MqEvent Thread Message) : MqSystem Thread Message :=
  { system with history := system.history ++ [event] }

/-- The resumption at the end of a send. -/
def wake : MqSystem Thread Message :=
  match system.mq.suspendThread with
  | [] => system
  | first :: rest =>
      { system with
        mq := { system.mq with suspendThread := rest }
        resumed := system.resumed ++ [first] }.move first .resumed

/-- The first section of a receive, or its turn behind a resumption. -/
def look (thread : Thread) (waits : Bool) : Option (MqSystem Thread Message) :=
  let looking := { system with resumed := system.resumed.erase thread }
  if system.mq.entry = 0 then
    if waits then
      let line := rtIpcListSuspend flag priority thread system.mq.suspendThread
      some (({ looking with mq := { system.mq with suspendThread := line } }.move thread
        .suspended).log .empty)
    else some ((looking.move thread .idle).log .empty)
  else
    system.mq.unlinkHead.map fun (msg, mq) =>
      ({ looking with mq := mq }.move thread (.unlinked msg (mq.body msg))).log
        (.unlinked thread (mq.body msg))

def step : MqLabel Thread Message → Option (MqSystem Thread Message)
  | .send thread buffer urgent =>
      match system.phase thread with
      | .idle =>
          match system.mq.takeFree with
          | none => some (system.log .refused)
          | some (msg, mq) =>
              some (({ system with mq := mq }.move thread (.taken msg buffer urgent)).log .took)
      | _ => none
  | .fill thread =>
      match system.phase thread with
      | .taken msg buffer urgent =>
          some ({ system with mq := system.mq.fill msg buffer urgent }.move thread
            (.filled msg buffer urgent))
      | _ => none
  | .link thread =>
      match system.phase thread with
      | .filled msg buffer urgent =>
          let mq := if urgent then system.mq.linkHead msg else system.mq.linkTail msg
          some (({ system with mq := mq }.move thread .idle).log (.linked buffer urgent)).wake
      | _ => none
  | .recv thread waits =>
      match system.phase thread with
      | .idle => system.look flag priority thread waits
      | .resumed => system.look flag priority thread waits
      | _ => none
  | .copy thread =>
      match system.phase thread with
      | .unlinked msg _ => some (system.move thread (.copied msg (system.mq.body msg)))
      | _ => none
  | .release thread =>
      match system.phase thread with
      | .copied msg _ =>
          some (({ system with mq := system.mq.putFree msg }.move thread .idle).log .released)
      | _ => none
  | .timeout thread =>
      match system.phase thread with
      | .suspended =>
          some ({ system with mq := { system.mq with
            suspendThread := system.mq.suspendThread.erase thread } }.move thread .idle)
      | _ => none

end MqSystem

end Threads

section Lines

variable {Thread Message : Type} [DecidableEq Thread] (flag : IpcFlag) (priority : Thread → Nat)

/-- The suspended threads are those in the list of the queue, once and in order, and while there
are any, each message has a thread that was resumed for it. -/
structure Lined (suspendThread resumed : List Thread) (phase : Thread → MqPhase Message)
    (entry : Nat) : Prop where
  waiting : ∀ thread, thread ∈ suspendThread ↔ phase thread = .suspended
  ready : ∀ thread, thread ∈ resumed ↔ phase thread = .resumed
  apart : suspendThread.Nodup
  readyApart : resumed.Nodup
  ordered : InOrder flag priority suspendThread
  noneMissed : suspendThread ≠ [] → entry ≤ resumed.length

variable {flag priority} {suspendThread resumed : List Thread} {phase : Thread → MqPhase Message}
variable {entry : Nat} {thread : Thread} {target : MqPhase Message}

/-- A thread that neither is in a phase nor comes to it. -/
theorem move_elsewhere {list : List Thread} {which : MqPhase Message}
    (same : ∀ thread, thread ∈ list ↔ phase thread = which) (before : phase thread ≠ which)
    (after : target ≠ which) (other : Thread) :
    other ∈ list ↔ Function.update phase thread target other = which := by
  by_cases here : other = thread
  · rw [here, Function.update_self]
    exact iff_of_false (fun member => before ((same thread).mp member)) after
  · rw [Function.update_of_ne here]
    exact same other

theorem move_away {list : List Thread} {which : MqPhase Message} (apart : list.Nodup)
    (same : ∀ thread, thread ∈ list ↔ phase thread = which) (after : target ≠ which) (other : Thread) :
    other ∈ list.erase thread ↔ Function.update phase thread target other = which := by
  rw [apart.mem_erase_iff]
  by_cases here : other = thread
  · rw [here, Function.update_self]
    exact iff_of_false (fun both => both.1 rfl) after
  · rw [Function.update_of_ne here, ← same other]
    exact and_iff_right here

theorem move_to {list longer : List Thread} {which : MqPhase Message}
    (same : ∀ thread, thread ∈ list ↔ phase thread = which)
    (grown : longer.Perm (thread :: list)) (other : Thread) :
    other ∈ longer ↔ Function.update phase thread which other = which := by
  rw [grown.mem_iff, List.mem_cons]
  by_cases here : other = thread
  · rw [here, Function.update_self]
    exact iff_of_true (.inl rfl) rfl
  · rw [Function.update_of_ne here, same other]
    exact or_iff_right here

theorem Lined.move (lined : Lined flag priority suspendThread resumed phase entry)
    (awake : phase thread ≠ .suspended) (looked : phase thread ≠ .resumed)
    (staysAwake : target ≠ .suspended) (notReady : target ≠ .resumed) :
    Lined flag priority suspendThread resumed (Function.update phase thread target) entry :=
  { lined with
    waiting := move_elsewhere lined.waiting awake staysAwake
    ready := move_elsewhere lined.ready looked notReady }

/-- A phase of a thread that neither waits nor was resumed. -/
def MqPhase.Works : MqPhase Message → Prop
  | .suspended => False
  | .resumed => False
  | _ => True

theorem Lined.work (lined : Lined flag priority suspendThread resumed phase entry)
    (awake : phase thread ≠ .suspended) (looked : phase thread ≠ .resumed) (works : target.Works) :
    Lined flag priority suspendThread resumed (Function.update phase thread target) entry := by
  refine lined.move awake looked ?_ ?_
  · rintro rfl
    exact works
  · rintro rfl
    exact works

/-- One message more resumes one thread more. -/
theorem Lined.wake {first : Thread} {rest : List Thread}
    (lined : Lined flag priority (first :: rest) resumed phase entry) :
    Lined flag priority rest (resumed ++ [first]) (Function.update phase first .resumed)
      (entry + 1) := by
  have suspended : phase first = .suspended := (lined.waiting first).mp (.head _)
  have notReady : first ∉ resumed := by
    intro member
    rw [(lined.ready first).mp member] at suspended
    cases suspended
  have grown : (resumed ++ [first]).Perm (first :: resumed) := List.perm_append_singleton first resumed
  have others : (first :: rest).erase first = rest :=
    List.erase_cons_head first rest
  refine ⟨fun other => ?_, move_to lined.ready grown, (List.nodup_cons.mp lined.apart).2,
    grown.nodup_iff.mpr (List.nodup_cons.mpr ⟨notReady, lined.readyApart⟩),
    lined.ordered.sublist (List.sublist_cons_self first rest), fun _ => ?_⟩
  · rw [← others]
    refine move_away lined.apart lined.waiting ?_ other
    exact fun same => nomatch same
  · have enough := lined.noneMissed (List.cons_ne_nil first rest)
    rw [List.length_append]
    exact Nat.succ_le_succ enough

/-- A thread looks at the queue, and leaves one message less or none behind. -/
theorem Lined.look (lined : Lined flag priority suspendThread resumed phase entry)
    (awake : phase thread ≠ .suspended) (staysAwake : target ≠ .suspended)
    (notReady : target ≠ .resumed) {fewer : Nat} (less : fewer ≤ entry - 1) :
    Lined flag priority suspendThread (resumed.erase thread) (Function.update phase thread target)
      fewer where
  waiting := move_elsewhere lined.waiting awake staysAwake
  ready := move_away lined.readyApart lined.ready notReady
  apart := lined.apart
  readyApart := lined.readyApart.sublist List.erase_sublist
  ordered := lined.ordered
  noneMissed := by
    intro waiting
    have enough := lined.noneMissed waiting
    have left := @List.le_length_erase _ _ _ thread resumed
    omega

theorem Lined.suspend (lined : Lined flag priority suspendThread resumed phase 0)
    (awake : phase thread ≠ .suspended) :
    Lined flag priority (rtIpcListSuspend flag priority thread suspendThread)
      (resumed.erase thread) (Function.update phase thread .suspended) 0 := by
  have outside : thread ∉ suspendThread := fun member => awake ((lined.waiting thread).mp member)
  exact ⟨move_to lined.waiting rtIpcListSuspend_perm,
    move_away lined.readyApart lined.ready (fun same => nomatch same),
    rtIpcListSuspend_perm.nodup_iff.mpr (List.nodup_cons.mpr ⟨outside, lined.apart⟩),
    lined.readyApart.sublist List.erase_sublist, lined.ordered.suspend thread,
    fun _ => Nat.zero_le _⟩

theorem Lined.timeout (lined : Lined flag priority suspendThread resumed phase entry)
    (suspended : phase thread = .suspended) :
    Lined flag priority (suspendThread.erase thread) resumed (Function.update phase thread .idle)
      entry where
  waiting := move_away lined.apart lined.waiting (fun same => nomatch same)
  ready := move_elsewhere lined.ready (fun same => nomatch suspended.symm.trans same)
    (fun same => nomatch same)
  apart := lined.apart.sublist List.erase_sublist
  readyApart := lined.readyApart
  ordered := lined.ordered.sublist List.erase_sublist
  noneMissed := by
    intro some
    refine lined.noneMissed fun none => some ?_
    rw [none]
    rfl

end Lines

section Storage

variable {Thread Message : Type} [DecidableEq Thread]

def MqEvent.unlinkedBy? (thread : Thread) : MqEvent Thread Message → Option Message
  | .unlinked other message => if other = thread then some message else none
  | _ => none

/-- What a thread has written to its node, or has still to read there. -/
def MqPhase.Written (mq : RtMessageQueue Thread Message) : MqPhase Message → Prop
  | .filled msg buffer urgent => mq.body msg = buffer ∧ (urgent = false → mq.next msg = none)
  | .unlinked msg message => mq.body msg = message
  | _ => True

/-- The message that a thread has unlinked and is about to return. -/
def MqPhase.owed : MqPhase Message → Option Message
  | .unlinked _ message => some message
  | .copied _ message => some message
  | _ => none

/-- Each node lies in one of the two lists or belongs to one thread; the messages are those
that were sent; and the sections so far are a history of the abstract queue. -/
structure Stored (maxMsgs : U16) (system : MqSystem Thread Message) (queued free : List Nat) :
    Prop where
  shape : system.mq.Shape queued free
  owners : Ownership (· < maxMsgs.toNat) (queued ++ free) fun thread => (system.phase thread).node
  written : ∀ thread, (system.phase thread).Written system.mq
  owes : ∀ thread message, (system.phase thread).owed = some message →
    (system.history.filterMap (MqEvent.unlinkedBy? thread)).getLast? = some message
  replays : MessageQueue.Replays ⟨[], maxMsgs.toNat⟩ system.history
    ⟨queued.map system.mq.body, free.length⟩

variable {maxMsgs : U16} {system : MqSystem Thread Message} {queued free : List Nat}
variable {thread : Thread} {msg : Nat} {buffer message : Message} {urgent : Bool}
variable {mq : RtMessageQueue Thread Message} {target : MqPhase Message}

theorem node_update (phase : Thread → MqPhase Message) (thread : Thread) (target : MqPhase Message) :
    (fun other => (Function.update phase thread target other).node) =
      Function.update (fun other => (phase other).node) thread target.node := by
  funext other
  by_cases here : other = thread
  · rw [here, Function.update_self, Function.update_self]
  · rw [Function.update_of_ne here, Function.update_of_ne here]

theorem node_same {phase : Thread → MqPhase Message} (same : target.node = (phase thread).node) :
    (fun other => (Function.update phase thread target other).node) =
      fun other => (phase other).node := by
  rw [node_update, same, Function.update_eq_self]

/-- The threads that do not move find their nodes as they left them. -/
theorem Stored.written_move (stored : Stored maxMsgs system queued free)
    (kept : ∀ other node, other ≠ thread → (system.phase other).node = some node →
      mq.body node = system.mq.body node ∧ mq.next node = system.mq.next node)
    (own : target.Written mq) (other : Thread) :
    (Function.update system.phase thread target other).Written mq := by
  by_cases here : other = thread
  · rw [here, Function.update_self]
    exact own
  · rw [Function.update_of_ne here]
    have before := stored.written other
    have same := fun node => kept other node here
    cases phase : system.phase other with
    | filled node buffer urgent =>
        rw [phase] at before same
        obtain ⟨body, next⟩ := same node rfl
        exact ⟨body.trans before.1, fun last => next.trans (before.2 last)⟩
    | unlinked node message =>
        rw [phase] at before same
        exact (same node rfl).1.trans before
    | idle => trivial
    | taken node buffer urgent => trivial
    | suspended => trivial
    | resumed => trivial
    | copied node message => trivial

theorem Stored.owes_move (stored : Stored maxMsgs system queued free) (nothing : target.owed = none)
    (other : Thread) (message : Message)
    (owed : (Function.update system.phase thread target other).owed = some message) :
    (system.history.filterMap (MqEvent.unlinkedBy? other)).getLast? = some message := by
  by_cases here : other = thread
  · rw [here, Function.update_self, nothing] at owed
    cases owed
  · rw [Function.update_of_ne here] at owed
    exact stored.owes other message owed

theorem owes_log {event : MqEvent Thread Message} {history : List (MqEvent Thread Message)}
    (elsewhere : event.unlinkedBy? thread = none) :
    (history ++ [event]).filterMap (MqEvent.unlinkedBy? thread) =
      history.filterMap (MqEvent.unlinkedBy? thread) := by
  rw [filterMap_snoc, elsewhere]
  exact List.append_nil _

theorem Stored.own (stored : Stored maxMsgs system queued free)
    (has : (system.phase thread).node = some msg) : msg ∉ queued ++ free :=
  stored.owners.held thread msg has

theorem Stored.others (stored : Stored maxMsgs system queued free)
    (has : (system.phase thread).node = some msg) {other : Thread} {node : Nat}
    (different : other ≠ thread) (holds : (system.phase other).node = some node) : node ≠ msg := by
  rintro rfl
  exact different (stored.owners.exclusive other thread node holds has)

theorem Stored.refuse (stored : Stored maxMsgs system queued free)
    (full : system.mq.takeFree = none) : Stored maxMsgs (system.log .refused) queued free where
  shape := stored.shape
  owners := stored.owners
  written := stored.written
  owes := by
    intro other message owed
    rw [MqSystem.log, owes_log rfl]
    exact stored.owes other message owed
  replays := by
    refine stored.replays.snoc (.refused ?_)
    rw [takeFree_none stored.shape full]
    rfl

theorem Stored.take (stored : Stored maxMsgs system queued free)
    (idle : system.phase thread = .idle) (taken : system.mq.takeFree = some (msg, mq)) :
    ∃ rest, Stored maxMsgs
      (({ system with mq := mq }.move thread (.taken msg buffer urgent)).log .took) queued rest := by
  obtain ⟨rest, rfl, shape, _⟩ := stored.shape.takeFree taken
  obtain ⟨first, _, same⟩ := Option.map_eq_some_iff.mp taken
  cases same
  have empty : (system.phase thread).node = none := by
    rw [idle]
    rfl
  refine ⟨rest, shape, ?_, ?_, ?_, ?_⟩
  · simp only [MqSystem.log, MqSystem.move, node_update]
    exact (stored.owners.perm List.perm_middle).acquire empty
  · exact stored.written_move (fun _ _ _ _ => ⟨rfl, rfl⟩) trivial
  · intro other message owed
    rw [MqSystem.log, owes_log rfl]
    exact stored.owes_move rfl other message owed
  · exact stored.replays.snoc (.took rfl)

theorem Stored.fill (stored : Stored maxMsgs system queued free)
    (phase : system.phase thread = .taken msg buffer urgent) :
    Stored maxMsgs ({ system with mq := system.mq.fill msg buffer urgent }.move thread
      (.filled msg buffer urgent)) queued free := by
  have has : (system.phase thread).node = some msg := by
    rw [phase]
    rfl
  have own := stored.own has
  have nodes : MqPhase.node (.filled msg buffer urgent) = (system.phase thread).node := has.symm
  refine ⟨stored.shape.fill own buffer urgent, ?_, ?_, ?_, ?_⟩
  · simp only [MqSystem.move, node_same nodes]
    exact stored.owners
  · refine stored.written_move (fun other node different holds => ?_) ⟨Function.update_self .., ?_⟩
    · have elsewhere := stored.others has different holds
      refine ⟨Function.update_of_ne elsewhere _ _, ?_⟩
      cases urgent with
      | true => rfl
      | false => exact Function.update_of_ne elsewhere _ _
    · rintro rfl
      exact Function.update_self ..
  · intro other message owed
    exact stored.owes_move rfl other message owed
  · have contents : queued.map (system.mq.fill msg buffer urgent).body = queued.map system.mq.body := by
      refine List.map_congr_left fun node member => Function.update_of_ne ?_ _ _
      rintro rfl
      exact own (List.mem_append_left _ member)
    simp only [MqSystem.move, contents]
    exact stored.replays

theorem Stored.room (stored : Stored maxMsgs system queued free)
    (has : (system.phase thread).node = some msg) : queued.length + 1 < 65536 := by
  have shorter := stored.owners.length_lt has
  have limit := maxMsgs.isLt
  rw [List.length_append] at shorter
  omega

theorem Stored.linkTail (stored : Stored maxMsgs system queued free)
    (phase : system.phase thread = .filled msg buffer false) :
    Stored maxMsgs (({ system with mq := system.mq.linkTail msg }.move thread .idle).log
      (.linked buffer false)) (queued ++ [msg]) free := by
  have has : (system.phase thread).node = some msg := by
    rw [phase]
    rfl
  have own := stored.own has
  have mine := stored.written thread
  rw [phase] at mine
  obtain ⟨body, last⟩ := mine
  have ends := last rfl
  refine ⟨stored.shape.linkTail own ends (stored.room has), ?_, ?_, ?_, ?_⟩
  · simp only [MqSystem.log, MqSystem.move, node_update]
    refine (stored.owners.release has).perm ?_
    rw [List.append_assoc]
    exact List.perm_middle.symm
  · refine stored.written_move (fun other node different holds => ⟨rfl, ?_⟩) trivial
    have elsewhere := stored.owners.held other node holds
    simp only [RtMessageQueue.linkTail]
    cases tail : system.mq.msgQueueTail with
    | none => rfl
    | some before =>
        refine Function.update_of_ne ?_ _ _
        rintro rfl
        have inside := List.mem_of_getLast? (stored.shape.tail.symm.trans tail)
        exact elsewhere (List.mem_append_left _ inside)
  · intro other message owed
    rw [MqSystem.log, owes_log rfl]
    exact stored.owes_move rfl other message owed
  · have contents : (queued ++ [msg]).map system.mq.body = queued.map system.mq.body ++ [buffer] := by
      rw [List.map_append, List.map_cons, body]
      rfl
    simp only [MqSystem.log, MqSystem.move, RtMessageQueue.linkTail, contents]
    exact stored.replays.snoc (.sent _ buffer)

theorem Stored.linkHead (stored : Stored maxMsgs system queued free)
    (phase : system.phase thread = .filled msg buffer true) :
    Stored maxMsgs (({ system with mq := system.mq.linkHead msg }.move thread .idle).log
      (.linked buffer true)) (msg :: queued) free := by
  have has : (system.phase thread).node = some msg := by
    rw [phase]
    rfl
  have mine := stored.written thread
  rw [phase] at mine
  refine ⟨stored.shape.linkHead (stored.own has) (stored.room has), ?_, ?_, ?_, ?_⟩
  · simp only [MqSystem.log, MqSystem.move, node_update]
    exact stored.owners.release has
  · refine stored.written_move (fun other node different holds => ⟨rfl, ?_⟩) trivial
    exact Function.update_of_ne (stored.others has different holds) _ _
  · intro other message owed
    rw [MqSystem.log, owes_log rfl]
    exact stored.owes_move rfl other message owed
  · have contents : (msg :: queued).map system.mq.body = buffer :: queued.map system.mq.body := by
      rw [List.map_cons, mine.1]
    simp only [MqSystem.log, MqSystem.move, RtMessageQueue.linkHead, contents]
    exact stored.replays.snoc (.urgent _ buffer)

/-- A receiver that finds a message. -/
theorem Stored.unlink (stored : Stored maxMsgs system queued free)
    (empty : (system.phase thread).node = none) (some : system.mq.entry ≠ 0) (resumed : List Thread) :
    ∃ msg mq rest, system.mq.unlinkHead = .some (msg, mq) ∧
      mq.entry.toNat = system.mq.entry.toNat - 1 ∧ mq.suspendThread = system.mq.suspendThread ∧
      Stored maxMsgs (({ system with mq := mq, resumed := resumed }.move thread
        (.unlinked msg (mq.body msg))).log (.unlinked thread (mq.body msg))) rest free := by
  obtain ⟨msg, rest, mq, rfl, found, shape, body, line⟩ := stored.shape.unlinkHead some
  obtain ⟨first, _, same⟩ := Option.map_eq_some_iff.mp found
  cases same
  have entry : (system.mq.entry - 1).toNat = system.mq.entry.toNat - 1 := by bv_omega
  refine ⟨msg, _, rest, found, entry, line, shape, ?_, ?_, ?_, ?_⟩
  · simp only [MqSystem.log, MqSystem.move, node_update]
    exact stored.owners.acquire empty
  · exact stored.written_move (fun _ _ _ _ => ⟨rfl, rfl⟩) rfl
  · intro other message owed
    simp only [MqSystem.log, MqSystem.move] at owed ⊢
    by_cases here : other = thread
    · rw [here, Function.update_self] at owed
      rw [here, filterMap_snoc, MqEvent.unlinkedBy?, if_pos rfl]
      exact (List.getLast?_concat ..).trans owed
    · rw [Function.update_of_ne here] at owed
      have elsewhere : MqEvent.unlinkedBy? other
          (.unlinked thread (system.mq.body msg) : MqEvent Thread Message) = none :=
        if_neg fun same => here same.symm
      rw [owes_log elsewhere]
      exact stored.owes other message owed
  · exact stored.replays.snoc (.unlinked thread rfl)

theorem Stored.miss (stored : Stored maxMsgs system queued free) (none : system.mq.entry = 0) :
    Stored maxMsgs (system.log .empty) queued free where
  shape := stored.shape
  owners := stored.owners
  written := stored.written
  owes := by
    intro other message owed
    rw [MqSystem.log, owes_log rfl]
    exact stored.owes other message owed
  replays := by
    refine stored.replays.snoc (.empty ?_)
    have length := stored.shape.entry
    rw [none] at length
    cases queued with
    | nil => rfl
    | cons first rest => cases length

theorem Stored.copy (stored : Stored maxMsgs system queued free)
    (phase : system.phase thread = .unlinked msg message) :
    Stored maxMsgs (system.move thread (.copied msg (system.mq.body msg))) queued free := by
  have mine := stored.written thread
  rw [phase] at mine
  have nodes : MqPhase.node (.copied msg (system.mq.body msg)) = (system.phase thread).node := by
    rw [phase]
    rfl
  refine ⟨stored.shape, ?_, ?_, ?_, stored.replays⟩
  · simp only [MqSystem.move, node_same nodes]
    exact stored.owners
  · exact stored.written_move (fun _ _ _ _ => ⟨rfl, rfl⟩) trivial
  · intro other returned owed
    simp only [MqSystem.move] at owed ⊢
    by_cases here : other = thread
    · rw [here, Function.update_self] at owed
      rw [here]
      refine stored.owes thread returned ?_
      rw [phase]
      exact (congrArg Option.some mine).symm.trans owed
    · rw [Function.update_of_ne here] at owed
      exact stored.owes other returned owed

theorem Stored.release (stored : Stored maxMsgs system queued free)
    (phase : system.phase thread = .copied msg message) :
    Stored maxMsgs (({ system with mq := system.mq.putFree msg }.move thread .idle).log .released)
      queued (msg :: free) := by
  have has : (system.phase thread).node = some msg := by
    rw [phase]
    rfl
  refine ⟨stored.shape.putFree (stored.own has), ?_, ?_, ?_, ?_⟩
  · simp only [MqSystem.log, MqSystem.move, node_update]
    exact (stored.owners.release has).perm List.perm_middle.symm
  · refine stored.written_move (fun other node different holds => ⟨rfl, ?_⟩) trivial
    exact Function.update_of_ne (stored.others has different holds) _ _
  · intro other returned owed
    rw [MqSystem.log, owes_log rfl]
    exact stored.owes_move rfl other returned owed
  · exact stored.replays.snoc (.released _)

/-- A thread is moved to or from the list of the suspended. -/
theorem Stored.relist (stored : Stored maxMsgs system queued free)
    (empty : (system.phase thread).node = none) (line resumed : List Thread)
    (gone : target.node = .none) (nothing : target.owed = .none)
    (clean : ∀ mq : RtMessageQueue Thread Message, target.Written mq) :
    Stored maxMsgs ({ system with
      mq := { system.mq with suspendThread := line }
      resumed := resumed }.move thread target) queued free := by
  refine ⟨⟨stored.shape.queue, stored.shape.rest, stored.shape.tail, stored.shape.entry,
    stored.shape.apart⟩, ?_, ?_, ?_, stored.replays⟩
  · simp only [MqSystem.move, node_same (gone.trans empty.symm)]
    exact stored.owners
  · exact stored.written_move (fun _ _ _ _ => ⟨rfl, rfl⟩) (clean _)
  · intro other message owed
    exact stored.owes_move nothing other message owed

end Storage

section Runs

variable {Thread Message : Type} [DecidableEq Thread] (flag : IpcFlag) (priority : Thread → Nat)

def MqSystem.Sound (maxMsgs : U16) (system : MqSystem Thread Message) : Prop :=
  ∃ queued free, Stored maxMsgs system queued free ∧
    Lined flag priority system.mq.suspendThread system.resumed system.phase system.mq.entry.toNat

variable {flag priority} {maxMsgs : U16} {system next : MqSystem Thread Message}

theorem MqSystem.start_sound (maxMsgs : U16) (body : Nat → Message) :
    (MqSystem.start maxMsgs body : MqSystem Thread Message).Sound flag priority maxMsgs := by
  obtain ⟨free, linked, apart, all⟩ := initLoop_linked maxMsgs.toNat
  have length : free.length = maxMsgs.toNat := by
    have same : free.Perm (List.range maxMsgs.toNat) :=
      (List.perm_ext_iff_of_nodup apart List.nodup_range).mpr fun node =>
        (all node).trans List.mem_range.symm
    rw [same.length_eq, List.length_range]
  refine ⟨[], free, ⟨⟨rfl, linked, rfl, rfl, apart⟩, ?_, fun _ => trivial, ?_, ?_⟩, ?_⟩
  · exact ⟨apart, fun node => ((all node).symm.trans (or_iff_left fun ⟨_, has⟩ => nomatch has).symm),
      fun _ _ has => (nomatch has), fun _ _ _ has => (nomatch has)⟩
  · exact fun _ _ owed => nomatch owed
  · rw [length]
    exact .nil
  · exact ⟨fun _ => iff_of_false List.not_mem_nil (fun same => nomatch same),
      fun _ => iff_of_false List.not_mem_nil (fun same => nomatch same), List.nodup_nil,
      List.nodup_nil, fun _ => List.Pairwise.nil, fun some => absurd rfl some⟩

theorem MqSystem.Sound.wake {queued free : List Nat} {entry : Nat}
    (stored : Stored maxMsgs system queued free)
    (lined : Lined flag priority system.mq.suspendThread system.resumed system.phase entry)
    (more : system.mq.entry.toNat = entry + 1) : system.wake.Sound flag priority maxMsgs := by
  unfold MqSystem.wake
  cases line : system.mq.suspendThread with
  | nil =>
      rw [line] at lined
      refine ⟨queued, free, stored, ?_⟩
      rw [line, more]
      exact { lined with noneMissed := fun some => absurd rfl some }
  | cons first rest =>
      rw [line] at lined
      have suspended := (lined.waiting first).mp (.head _)
      have empty : (system.phase first).node = none := by
        rw [suspended]
        rfl
      refine ⟨queued, free, stored.relist empty rest _ rfl rfl fun _ => trivial, ?_⟩
      simp only [MqSystem.move, more]
      exact lined.wake

theorem MqSystem.Sound.look (sound : system.Sound flag priority maxMsgs) {thread : Thread}
    (empty : (system.phase thread).node = none) (awake : system.phase thread ≠ .suspended)
    {waits : Bool} (looked : system.look flag priority thread waits = some next) :
    next.Sound flag priority maxMsgs := by
  obtain ⟨queued, free, stored, lined⟩ := sound
  unfold MqSystem.look at looked
  by_cases nothing : system.mq.entry = 0
  · simp only [if_pos nothing] at looked
    have zero : system.mq.entry.toNat = 0 := by
      rw [nothing]
      rfl
    cases waits with
    | true =>
        cases looked
        refine ⟨queued, free,
          Stored.miss (stored.relist empty _ _ rfl rfl fun _ => trivial) nothing, ?_⟩
        rw [zero] at lined
        simp only [MqSystem.log, MqSystem.move, zero]
        exact lined.suspend awake
    | false =>
        cases looked
        refine ⟨queued, free,
          Stored.miss (stored.relist empty _ _ rfl rfl fun _ => trivial) nothing, ?_⟩
        refine lined.look awake ?_ ?_ (zero.trans_le (Nat.zero_le _))
        · exact fun same => nomatch same
        · exact fun same => nomatch same
  · rw [if_neg nothing] at looked
    obtain ⟨msg, mq, rest, found, entry, line, unlinked⟩ :=
      stored.unlink empty nothing (system.resumed.erase thread)
    rw [found] at looked
    cases looked
    refine ⟨rest, free, unlinked, ?_⟩
    simp only [MqSystem.log, MqSystem.move, line]
    refine lined.look awake ?_ ?_ (Nat.le_of_eq entry)
    · exact fun same => nomatch same
    · exact fun same => nomatch same

theorem MqSystem.Sound.step (sound : system.Sound flag priority maxMsgs)
    {label : MqLabel Thread Message} (stepped : system.step flag priority label = some next) :
    next.Sound flag priority maxMsgs := by
  cases label with
  | send thread buffer urgent =>
      obtain ⟨queued, free, stored, lined⟩ := sound
      simp only [MqSystem.step] at stepped
      split at stepped
      · next idle =>
        cases taken : system.mq.takeFree with
        | none =>
            rw [taken] at stepped
            cases stepped
            exact ⟨queued, free, stored.refuse taken, lined⟩
        | some node =>
            rw [taken] at stepped
            cases stepped
            obtain ⟨rest, kept⟩ := stored.take idle taken
            obtain ⟨first, _, same⟩ := Option.map_eq_some_iff.mp taken
            cases same
            exact ⟨queued, rest, kept, lined.work (fun same => nomatch idle.symm.trans same)
              (fun same => nomatch idle.symm.trans same) trivial⟩
      · cases stepped
  | fill thread =>
      obtain ⟨queued, free, stored, lined⟩ := sound
      simp only [MqSystem.step] at stepped
      split at stepped
      · next msg buffer urgent taken =>
        cases stepped
        exact ⟨queued, free, stored.fill taken, lined.work (fun same => nomatch taken.symm.trans same)
          (fun same => nomatch taken.symm.trans same) trivial⟩
      · cases stepped
  | link thread =>
      obtain ⟨queued, free, stored, lined⟩ := sound
      simp only [MqSystem.step] at stepped
      split at stepped
      · next msg buffer urgent filled =>
        cases stepped
        have has : (system.phase thread).node = some msg := by
          rw [filled]
          rfl
        have room := stored.room has
        have length := stored.shape.entry
        have more : (system.mq.entry + 1).toNat = system.mq.entry.toNat + 1 := by
          rw [BitVec.toNat_add, length]
          exact Nat.mod_eq_of_lt room
        have line := @Lined.work _ _ _ _ _ _ _ _ _ _ .idle lined
          (fun same => nomatch filled.symm.trans same) (fun same => nomatch filled.symm.trans same)
          trivial
        cases urgent with
        | true => exact Sound.wake (stored.linkHead filled) line more
        | false => exact Sound.wake (stored.linkTail filled) line more
      · cases stepped
  | recv thread waits =>
      simp only [MqSystem.step] at stepped
      split at stepped
      · next idle =>
        exact sound.look (congrArg MqPhase.node idle) (fun same => nomatch idle.symm.trans same)
          stepped
      · next resumed =>
        exact sound.look (congrArg MqPhase.node resumed)
          (fun same => nomatch resumed.symm.trans same) stepped
      · cases stepped
  | copy thread =>
      obtain ⟨queued, free, stored, lined⟩ := sound
      simp only [MqSystem.step] at stepped
      split at stepped
      · next msg message unlinked =>
        cases stepped
        exact ⟨queued, free, stored.copy unlinked,
          lined.work (fun same => nomatch unlinked.symm.trans same)
            (fun same => nomatch unlinked.symm.trans same) trivial⟩
      · cases stepped
  | release thread =>
      obtain ⟨queued, free, stored, lined⟩ := sound
      simp only [MqSystem.step] at stepped
      split at stepped
      · next msg message copied =>
        cases stepped
        exact ⟨queued, msg :: free, stored.release copied,
          lined.work (fun same => nomatch copied.symm.trans same)
            (fun same => nomatch copied.symm.trans same) trivial⟩
      · cases stepped
  | timeout thread =>
      obtain ⟨queued, free, stored, lined⟩ := sound
      simp only [MqSystem.step] at stepped
      split at stepped
      · next suspended =>
        cases stepped
        refine ⟨queued, free, stored.relist (congrArg MqPhase.node suspended) _ _ rfl rfl
          fun _ => trivial, lined.timeout suspended⟩
      · cases stepped

/-- Without urgent messages the messages that were unlinked, and then those that are queued, are
the messages in the order in which they were sent. -/
def MqSystem.Fifo (system : MqSystem Thread Message) : Prop :=
  (∀ event ∈ system.history, ¬ event.Urgent) →
    system.history.filterMap MqEvent.unlinked? <+: system.history.filterMap MqEvent.linked?

theorem MqSystem.Sound.fifo (sound : system.Sound flag priority maxMsgs) : system.Fifo := by
  obtain ⟨queued, free, stored, _⟩ := sound
  intro patient
  have order := stored.replays.fifo patient
  rw [List.nil_append] at order
  exact ⟨_, order.symm⟩

/-- In every interleaving of the sections of any number of threads the nodes of a queue are
neither lost nor shared, each section does what it does to the abstract queue, a thread returns
the message that it unlinked, and no thread is left suspended over a message. -/
theorem messageQueue_sound (flag : IpcFlag) (priority : Thread → Nat) (maxMsgs : U16)
    (body : Nat → Message) (labels : List (MqLabel Thread Message)) :
    Run.AllSteps (MqSystem.step flag priority)
      (fun _ _ after => after.Sound flag priority maxMsgs ∧ after.Fifo) (.start maxMsgs body)
      labels := by
  have begun : (MqSystem.start maxMsgs body : MqSystem Thread Message).Sound flag priority maxMsgs :=
    MqSystem.start_sound maxMsgs body
  refine Run.allSteps_of_step (fun before label after sound stepped => ?_) labels begun
  have kept : after.Sound flag priority maxMsgs := sound.step stepped
  exact ⟨kept, kept, kept.fifo⟩

end Runs

end ZhuoduControl.Queue
