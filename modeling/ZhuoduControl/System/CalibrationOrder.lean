import ZhuoduControl.Library.Pipeline
import ZhuoduControl.System.Transitions

/-! Whether the calibration trigger can reach the head before the data of its own
confirmation. -/

set_option autoImplicit false

namespace ZhuoduControl.System

open ZhuoduControl.Library
open ZhuoduControl.Data
open ZhuoduControl.Modbus
open ZhuoduControl.Menu
open ZhuoduControl.Queue

/-- When the trigger of a confirmation is put on the bus, every earlier message of
that confirmation has got its normal answer. -/
def TriggerAfterData (others : OtherHandlers) (before : State) (event : Event) (_ : State) :
    Prop :=
  match event with
  | .attempt answer =>
      ∀ message ∈ before.consumer.current, message.msg.dataAddr = triggerAddr →
        (message.msg.request others before.master answer).transmitted = true →
        ∀ index, index < message.index →
          ∃ data ∈ before.acked, data.commit = message.commit ∧ data.index = index
  | _ => True

/-- A data message of a calibration finds a free node when it is sent, and the
message thread leaves it only after a normal answer. -/
def DataKept (others : OtherHandlers) (before : State) (event : Event) (_ : State) : Prop :=
  match event with
  | .menu =>
      ∀ send ∈ before.nextSend, calibrates send.1.ops = true → send.2.dataAddr ≠ triggerAddr →
        0 < before.mq.free
  | .attempt answer =>
      ∀ message ∈ before.consumer.current, message.calibration = true →
        message.msg.dataAddr ≠ triggerAddr →
        (message.msg.request others before.master answer).err = .noErr →
        answer.Normal message.msg ∨ message ∈ before.acked
  | .giveUp =>
      ∀ message ∈ before.consumer.current, message.calibration = true →
        message.msg.dataAddr ≠ triggerAddr → message ∈ before.acked
  | _ => True

instance (others : OtherHandlers) (before : State) (event : Event) (after : State) :
    Decidable (DataKept others before event after) :=
  match event with
  | .menu => inferInstanceAs (Decidable (∀ send ∈ before.nextSend, _))
  | .attempt _ => inferInstanceAs (Decidable (∀ message ∈ before.consumer.current, _))
  | .giveUp => inferInstanceAs (Decidable (∀ message ∈ before.consumer.current, _))
  | .confirm _ | .unlink | .release | .interfere _ => inferInstanceAs (Decidable True)

def TriggerLast : List ModbusMsg → Prop
  | [] => True
  | msg :: rest => (msg.dataAddr = triggerAddr → rest = []) ∧ TriggerLast rest

theorem commit_triggerLast (zhuodu : Zhuodu) (commit : Commit) :
    TriggerLast (sends (commit.ops zhuodu)) := by
  cases commit with
  | rangeSetup stale retVal =>
      simp only [Commit.ops, menuRangeSetup]
      split <;> simp [TriggerLast, sends]
  | rangeSelect retVal => simp [Commit.ops, menuRangeSelect, TriggerLast, sends]
  | coeffAB numberBox numberBox2 =>
      simp only [Commit.ops, menuCoeffAB]
      split <;> simp [TriggerLast, sends, floatMsg, triggerAddr]
  | signalSetup numberBox numberBox2 =>
      simp only [Commit.ops, menuSignalSetup]
      rcases darkCommand_cases zhuodu with dark | dark | dark <;>
        simp [dark, TriggerLast, sends, wordMsg, triggerAddr]
  | canbiZhuodu numberBox => simp [Commit.ops, menuCanbiZhuodu, TriggerLast, sends]
  | zeroCompensate retVal =>
      simp only [Commit.ops, menuZeroCompensate]
      split <;> simp [TriggerLast, sends]
  | linearCaliPoint retVal =>
      simp only [Commit.ops, menuLinearCaliPoint]
      split <;> simp [TriggerLast, sends]
  | zeroCaliSet setInteger => simp [Commit.ops, btnSetEvent, TriggerLast, sends]
  | zeroCaliConfirm =>
      simp only [Commit.ops, btnConfirmEvent]
      rcases darkCommand_cases zhuodu with dark | dark | dark <;> simp [dark, TriggerLast, sends]
  | fullCali numberBox =>
      simp [Commit.ops, btnFullConfirmEvent, TriggerLast, sends, floatMsg, wordMsg, triggerAddr]
  | linearCali numberBox =>
      simp only [Commit.ops, menuLinearCaliSend]
      split <;> simp [TriggerLast, sends, floatMsg, triggerAddr]

def Requires (message : Tagged) (need : Nat × Nat) : Prop :=
  message.calibration = true ∧ need.1 = message.commit ∧ need.2 < message.index

def Meets (message : Tagged) (need : Nat × Nat) : Prop :=
  message.calibration = true ∧ message.msg.dataAddr ≠ triggerAddr ∧
    message.commit = need.1 ∧ message.index = need.2

def Consumer.message : Consumer → List Tagged
  | .waiting => []
  | .copying message => [message]
  | .sending message _ => [message]

/-- The messages under way, the one nearest the bus first. -/
def pipeline (state : State) : List Tagged :=
  state.consumer.message ++ state.mq.queued ++ menuNode state.menu

/-- The data before the next message of a confirmation are acknowledged or under way. -/
def Prepared (state : State) (committing : Committing) : Prop :=
  calibrates committing.ops = true → sends committing.rest ≠ [] →
    ∀ index, index < (sends committing.done).length →
      ∃ other, (other ∈ state.acked ∨ other ∈ pipeline state) ∧
        Meets other (committing.id, index)

structure CalibrationInvariant (state : State) : Prop where
  ordered : Pipeline.Ordered Requires Meets (· ∈ state.acked) (pipeline state)
  flagged : ∀ message ∈ pipeline state, message.msg.dataAddr = triggerAddr →
    message.calibration = true
  prepared : ∀ committing, state.menu = some committing → Prepared state committing
  triggerLast : ∀ committing, state.menu = some committing →
    TriggerLast (sends committing.rest)

theorem calibrates_of_send {ops : List MenuOp} {msg : ModbusMsg} (sent : msg ∈ sends ops)
    (trigger : msg.dataAddr = triggerAddr) : calibrates ops = true :=
  List.any_eq_true.mpr ⟨msg, sent, decide_eq_true trigger⟩

private theorem prepared_continues {state following : State} {before after : Committing}
    (continued : Continues before after) (prepared : Prepared state before)
    (kept : ∀ other need, (other ∈ state.acked ∨ other ∈ pipeline state) → Meets other need →
      other ∈ following.acked ∨ other ∈ pipeline following) : Prepared following after := by
  intro calibrating outstanding index early
  rw [continued.ops] at calibrating
  rw [continued.rest] at outstanding
  rw [continued.done] at early
  obtain ⟨other, present, met⟩ := prepared calibrating outstanding index early
  exact ⟨other, kept other _ present met, continued.id ▸ met⟩

private theorem invariant_in_place {state following : State}
    (invariant : CalibrationInvariant state) (same : pipeline following = pipeline state)
    (grown : ∀ message, message ∈ state.acked → message ∈ following.acked)
    (continued : ∀ after, following.menu = some after →
      ∃ before, state.menu = some before ∧ Continues before after) :
    CalibrationInvariant following where
  ordered := by
    rw [same]
    exact invariant.ordered.weaken fun other _ available _ => grown other available
  flagged := by
    rw [same]
    exact invariant.flagged
  prepared := by
    intro after active
    obtain ⟨before, earlier, continues⟩ := continued after active
    refine prepared_continues continues (invariant.prepared before earlier) ?_
    intro other need present met
    rw [same]
    exact present.imp (grown other) id
  triggerLast := by
    intro after active
    obtain ⟨before, earlier, continues⟩ := continued after active
    rw [continues.rest]
    exact invariant.triggerLast before earlier

private theorem invariant_departure {state following : State} (message : Tagged)
    (invariant : CalibrationInvariant state)
    (first : pipeline state = message :: pipeline following)
    (grown : ∀ other, other ∈ state.acked → other ∈ following.acked)
    (settled : ∀ need, Meets message need → message ∈ following.acked)
    (menu : following.menu = state.menu) : CalibrationInvariant following where
  ordered := by
    have ordered := invariant.ordered
    rw [first] at ordered
    exact ordered.tail (fun other _ available _ => grown other available) settled
  flagged := by
    intro other member
    exact invariant.flagged other (first ▸ List.mem_cons_of_mem _ member)
  prepared := by
    intro committing active
    rw [menu] at active
    refine prepared_continues (continues_refl committing) (invariant.prepared committing active) ?_
    rintro other need (acked | member) met
    · exact .inl (grown other acked)
    · rw [first] at member
      rcases List.mem_cons.mp member with rfl | later
      · exact .inl (settled need met)
      · exact .inr later
  triggerLast := by
    intro committing active
    exact invariant.triggerLast committing (menu ▸ active)

private theorem data_of_outstanding {msg : ModbusMsg} {rest : List MenuOp}
    (last : TriggerLast (msg :: sends rest)) (outstanding : sends rest ≠ []) :
    msg.dataAddr ≠ triggerAddr :=
  fun trigger => outstanding (last.1 trigger)

private theorem invariant_confirm {state : State} (commit : Commit)
    (invariant : CalibrationInvariant state) (idle : state.menu = none) :
    CalibrationInvariant
      { state with
        menu := some ⟨state.nextId, [], commit.ops state.zhuodu, none⟩
        nextId := state.nextId + 1 } := by
  have same : pipeline
      { state with
        menu := some ⟨state.nextId, [], commit.ops state.zhuodu, none⟩
        nextId := state.nextId + 1 } = pipeline state := by
    simp [pipeline, menuNode, idle]
  constructor
  · rw [same]
    exact invariant.ordered
  · rw [same]
    exact invariant.flagged
  · intro committing active _ _ index early
    cases Option.some.inj active
    cases early
  · intro committing active
    cases Option.some.inj active
    exact commit_triggerLast state.zhuodu commit

/-- A message that finds no free node: no other of its calibration may follow. -/
private theorem invariant_full {state : State} {committing : Committing} {msg : ModbusMsg}
    {rest : List MenuOp} (invariant : CalibrationInvariant state)
    (active : state.menu = some committing) (free : committing.node = none)
    (next : committing.rest = .send msg :: rest)
    (trigger : calibrates committing.ops = true → msg.dataAddr = triggerAddr) :
    CalibrationInvariant
      { state with menu := some (committing.advance (.send msg) rest none) } := by
  have last : TriggerLast (sends (.send msg :: rest)) :=
    next ▸ invariant.triggerLast committing active
  have same : pipeline
      { state with menu := some (committing.advance (.send msg) rest none) } = pipeline state := by
    simp [pipeline, menuNode, active, free, Committing.advance]
  constructor
  · rw [same]
    exact invariant.ordered
  · rw [same]
    exact invariant.flagged
  · intro after later calibrating outstanding
    cases Option.some.inj later
    rw [Committing.advance_ops next] at calibrating
    exact absurd (trigger calibrating) (data_of_outstanding last outstanding)
  · intro after later
    cases Option.some.inj later
    exact last.2

private theorem justified_tag {state : State} {committing : Committing} {msg : ModbusMsg}
    {rest : List MenuOp} (prepared : Prepared state committing)
    (next : committing.rest = .send msg :: rest) :
    Pipeline.Justified Requires Meets (fun other => other ∈ state.acked ∨ other ∈ pipeline state)
      (committing.tag msg) := by
  rintro ⟨commit, index⟩ ⟨calibrating, owner, early⟩
  obtain rfl : commit = committing.id := owner
  exact prepared calibrating (by simp [next, sends]) index early

private theorem invariant_take {state : State} {committing : Committing} {msg : ModbusMsg}
    {rest : List MenuOp} (invariant : CalibrationInvariant state)
    (active : state.menu = some committing) (free : committing.node = none)
    (next : committing.rest = .send msg :: rest) :
    CalibrationInvariant
      { state with
        mq := { state.mq with free := state.mq.free - 1 }
        menu := some (committing.advance (.send msg) rest (some (committing.tag msg))) } := by
  have last : TriggerLast (sends (.send msg :: rest)) :=
    next ▸ invariant.triggerLast committing active
  have prepared := invariant.prepared committing active
  have joined : pipeline
      { state with
        mq := { state.mq with free := state.mq.free - 1 }
        menu := some (committing.advance (.send msg) rest (some (committing.tag msg))) } =
      pipeline state ++ [committing.tag msg] := by
    simp [pipeline, menuNode, active, free, Committing.advance]
  constructor
  · rw [joined]
    exact invariant.ordered.snoc (justified_tag prepared next)
  · rw [joined]
    intro message member trigger
    rcases List.mem_append.mp member with earlier | new
    · exact invariant.flagged message earlier trigger
    · cases List.mem_singleton.mp new
      have sent : msg ∈ sends committing.ops := by
        simp [Committing.ops, next, sends_append, sends]
      exact calibrates_of_send sent trigger
  · intro after later calibrating outstanding index early
    cases Option.some.inj later
    rw [Committing.advance_ops next] at calibrating
    rw [sends_advance, List.length_append, List.length_singleton] at early
    rw [joined]
    -- the message just taken meets the newest position, the older ones are met already
    rcases Nat.lt_succ_iff_lt_or_eq.mp early with older | rfl
    · obtain ⟨other, present, met⟩ :=
        prepared calibrating (by simp [next, sends]) index older
      exact ⟨other, present.imp id (List.mem_append_left _), met⟩
    · exact ⟨committing.tag msg, .inr (by simp),
        calibrating, data_of_outstanding last outstanding, rfl, rfl⟩
  · intro after later
    cases Option.some.inj later
    exact last.2

private theorem mem_acked_attempt {message other : Tagged} {answer : Answer}
    {acked : List Tagged} (member : other ∈ acked) :
    other ∈ if answer.Normal message.msg then acked ++ [message] else acked := by
  split
  · exact List.mem_append_left _ member
  · exact member

private theorem acked_of_normal {message : Tagged} {answer : Answer} {acked : List Tagged}
    (settled : answer.Normal message.msg ∨ message ∈ acked) :
    message ∈ if answer.Normal message.msg then acked ++ [message] else acked := by
  rcases settled with normal | member
  · rw [if_pos normal]
    exact List.mem_append_right _ (List.mem_singleton.mpr rfl)
  · exact mem_acked_attempt member

private theorem current_sending {consumer : Consumer} {message : Tagged} {retry : Nat}
    (sending : consumer = .sending message retry) : message ∈ consumer.current := by
  rw [sending]
  rfl

theorem calibrationInvariant_step {others : OtherHandlers} {state following : State}
    {event : Event} (invariant : CalibrationInvariant state)
    (stepped : step others state event = some following)
    (kept : DataKept others state event following) : CalibrationInvariant following := by
  cases transition_of_step stepped with
  | confirm idle => exact invariant_confirm _ invariant idle
  | link active held =>
      refine invariant_in_place invariant ?_ (fun _ member => member) ?_
      · simp [pipeline, menuNode, active, held, MessageQueue.link]
      · intro after later
        cases Option.some.inj later
        exact ⟨_, active, rfl, rfl, rfl, rfl⟩
  | leave active free finished =>
      refine invariant_in_place invariant ?_ (fun _ member => member) ?_
      · simp [pipeline, menuNode, active, free]
      · intro after later
        cases later
  | edit active free next silent =>
      refine invariant_in_place invariant ?_ (fun _ member => member) ?_
      · simp [pipeline, menuNode, active, free, Committing.advance, State.assign]
      · intro after later
        cases Option.some.inj later
        exact ⟨_, active, continues_edit next silent⟩
  | full active free next exhausted =>
      refine invariant_full invariant active free next ?_
      intro calibrating
      by_contra data
      have room := kept _ (State.nextSend_eq active free next) calibrating data
      exact absurd exhausted (Nat.ne_of_gt room)
  | take active free next available => exact invariant_take invariant active free next
  | unlink waiting first =>
      refine invariant_in_place invariant ?_ (fun _ member => member) ?_
      · simp [pipeline, waiting, first, Consumer.message]
      · exact fun after later => ⟨after, later, continues_refl after⟩
  | release copying =>
      refine invariant_in_place invariant ?_ (fun _ member => member) ?_
      · simp [pipeline, copying, Consumer.message, MessageQueue.release]
      · exact fun after later => ⟨after, later, continues_refl after⟩
  | @attempt message retry answer sending allowed =>
      cases ended : (message.msg.request others state.master answer).err with
      | noErr =>
          refine invariant_departure message invariant ?_
            (fun _ => mem_acked_attempt) ?_ rfl
          · simp [pipeline, sending, Consumer.message]
          · rintro need ⟨calibrating, data, -⟩
            exact acked_of_normal (kept message (current_sending sending) calibrating data ended)
      | _ =>
          refine invariant_in_place invariant ?_ (fun _ => mem_acked_attempt) ?_
          · simp [pipeline, sending, Consumer.message]
          · exact fun after later => ⟨after, later, continues_refl after⟩
  | @giveUp message retry sending exhausted =>
      refine invariant_departure message invariant ?_ (fun _ member => member) ?_ rfl
      · simp [pipeline, sending, Consumer.message]
      · rintro need ⟨calibrating, data, -⟩
        exact kept message (current_sending sending) calibrating data
  | interfere =>
      refine invariant_in_place invariant rfl (fun _ member => member) ?_
      exact fun after later => ⟨after, later, continues_refl after⟩

private theorem triggerAfterData_of_invariant {others : OtherHandlers} {state following : State}
    (event : Event) (invariant : CalibrationInvariant state) :
    TriggerAfterData others state event following := by
  cases event with
  | attempt answer =>
      intro message current trigger _ index early
      have first : pipeline state = message :: (state.mq.queued ++ menuNode state.menu) := by
        cases sending : state.consumer with
        | sending other retry =>
            rw [sending] at current
            cases Option.some.inj current
            simp [pipeline, sending, Consumer.message]
        | _ => simp [sending, Consumer.current] at current
      have calibrating : message.calibration = true :=
        invariant.flagged message (first ▸ List.mem_cons_self) trigger
      have ordered := invariant.ordered
      rw [first] at ordered
      obtain ⟨data, acked, -, -, owner, position⟩ :=
        ordered.head (message.commit, index) ⟨calibrating, rfl, early⟩
      exact ⟨data, acked, owner, position⟩
  | _ => trivial

private theorem calibrationInvariant_initial (master : Master) :
    CalibrationInvariant (initial master) where
  ordered := trivial
  flagged := fun _ member => absurd member List.not_mem_nil
  prepared := fun _ active => nomatch active
  triggerLast := fun _ active => nomatch active

/-- In a run that keeps the data of its calibrations no trigger overtakes them,
however the two threads and the bus are interleaved. -/
theorem trigger_after_data (others : OtherHandlers) (master : Master) (events : List Event)
    (kept : Run.AllSteps (step others) (DataKept others) (initial master) events) :
    Run.AllSteps (step others) (TriggerAfterData others) (initial master) events :=
  Run.allSteps_of_invariant
    (fun _ _ _ invariant stepped kept => calibrationInvariant_step invariant stepped kept)
    (fun _ event _ invariant _ _ => triggerAfterData_of_invariant event invariant)
    (calibrationInvariant_initial master) kept

def queuedCalibration : List Event :=
  .confirm (.fullCali 0x3F800000) :: List.replicate 9 .menu

def unanswered : List Event :=
  [.unlink, .release] ++ List.replicate 5 (.attempt .timeout) ++ [.giveUp]

def answered (msg : ModbusMsg) : Event :=
  .attempt (.frame ⟨0, 0⟩ (fun index => msg.normalPdu.getD index 0) 5)

/-- A head that answers at once: the master refuses its answers from 0x200 on, so
these messages are repeated, but all data are acknowledged before the trigger. -/
def answeredCalibration : List Event :=
  queuedCalibration ++
    [.unlink, .release] ++ List.replicate 5 (answered (floatMsg 514 0x3F800000)) ++ [.giveUp] ++
    [.unlink, .release] ++ List.replicate 5 (answered (floatMsg 522 0)) ++ [.giveUp] ++
    [.unlink, .release, answered (wordMsg 291 2)] ++
    [.unlink, .release, answered (wordMsg 528 1)]

theorem trigger_after_data_answered :
    (Run.run (step fun _ => none) (initial powerUpMaster) answeredCalibration).isSome ∧
      Run.AllSteps (step fun _ => none) (TriggerAfterData fun _ => none) (initial powerUpMaster)
        answeredCalibration :=
  ⟨by decide +kernel, trigger_after_data _ _ _ (by decide +kernel)⟩

/-- The three data messages of the calibration run out of retries, then the trigger
is put on the bus. -/
theorem trigger_overtakes_unanswered_data :
    ¬ ∀ (others : OtherHandlers) (master : Master) (events : List Event),
      Run.AllSteps (step others) (TriggerAfterData others) (initial master) events := by
  intro always
  let before := queuedCalibration ++ unanswered ++ unanswered ++ unanswered ++ [.unlink, .release]
  let trigger : Tagged := ⟨0, 3, true, wordMsg 528 1⟩
  have reached : (Run.run (step fun _ => none) (initial powerUpMaster) before).map
      (fun state => (state.consumer, state.acked)) = some (.sending trigger 0, []) := by
    decide +kernel
  obtain ⟨state, ran, final⟩ := Option.map_eq_some_iff.mp reached
  obtain ⟨sending, silent⟩ := Prod.mk.inj final
  have stepped : ∃ next, step (fun _ => none) state (.attempt .timeout) = some next := by
    simp only [step, sending]
    exact ⟨_, rfl⟩
  obtain ⟨next, stepped⟩ := stepped
  have overtaken := (always (fun _ => none) powerUpMaster (before ++ [.attempt .timeout])).last
    ran stepped
  obtain ⟨data, acked, -⟩ := overtaken trigger (current_sending sending) rfl rfl 0 (by decide)
  rw [silent] at acked
  cases acked

end ZhuoduControl.System
