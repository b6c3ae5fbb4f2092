import ZhuoduControl.System.Transitions

/-! Whether every setting that a confirmation assigned has its message in the queue,
or received, when the operator leaves the page. -/

set_option autoImplicit false

namespace ZhuoduControl.System

open ZhuoduControl.Library
open ZhuoduControl.Data
open ZhuoduControl.Modbus
open ZhuoduControl.Menu
open ZhuoduControl.Queue

def State.leaving (state : State) : Option Committing :=
  match state.menu with
  | some ⟨id, done, [], none⟩ => some ⟨id, done, [], none⟩
  | _ => none

theorem leaving_eq {state : State} {committing : Committing}
    (leaving : committing ∈ state.leaving) :
    state.menu = some committing ∧ committing.rest = [] ∧ committing.node = none := by
  unfold State.leaving at leaving
  split at leaving
  case h_1 active =>
    cases Option.some.inj leaving
    exact ⟨active, rfl, rfl⟩
  case h_2 => cases leaving

/-- What `menu_zero_compensate` confirms; it sends to one register in every range. -/
def ZeroCompensates (ops : List MenuOp) : Prop :=
  ∃ zhuodu retVal, ops = menuZeroCompensate zhuodu retVal

/-- When a page is left each setting it assigned has its own message, the one at the
same position, in the queue or received, with its value and, but for `menu_zero_compensate`,
for its register. -/
def LeaveKeeps (before : State) (event : Event) (_ : State) : Prop :=
  match event with
  | .menu =>
      ∀ committing ∈ before.leaving, ∀ index setting,
        (committed committing.ops)[index]? = some setting →
          ∃ message, (message ∈ before.mq.queued ∨ message ∈ before.taken) ∧
            message.commit = committing.id ∧ message.index = index ∧
            message.msg.dat = setting.value ∧
            (message.msg.dataAddr = setting.field.address ∨ ZeroCompensates committing.ops)
  | _ => True

/-- The message of an assigned setting finds a free node when it is sent. -/
def SlotFound (before : State) (event : Event) (_ : State) : Prop :=
  match event with
  | .menu =>
      ∀ send ∈ before.nextSend,
        (sends send.1.done).length < (committed send.1.ops).length → 0 < before.mq.free
  | _ => True

instance (before : State) (event : Event) (after : State) :
    Decidable (SlotFound before event after) :=
  match event with
  | .menu => inferInstanceAs (Decidable (∀ send ∈ before.nextSend, _))
  | .confirm _ | .unlink | .release | .attempt _ | .giveUp | .interfere _ =>
      inferInstanceAs (Decidable True)

/-- The messages begin with those of the settings, in the order of the assignments. -/
structure Carried (ops : List MenuOp) : Prop where
  values : (committed ops).map Setting.value <+: (sends ops).map ModbusMsg.dat
  registers : (committed ops).map (fun setting => setting.field.address) <+:
    (sends ops).map ModbusMsg.dataAddr ∨ ZeroCompensates ops

theorem Carried.of_paired {ops : List MenuOp} {entered : List (Field × Value)}
    {repairs : List Setting} {commands : List ModbusMsg}
    (paired : Paired ops entered repairs commands) : Carried ops where
  values := by
    rw [paired.sends_eq, List.map_append, List.map_map]
    exact ⟨_, congrArg (· ++ _) (List.map_congr_left fun setting _ => (carrier_dat setting).symm)⟩
  registers := by
    rw [paired.sends_eq, List.map_append, List.map_map]
    exact .inl
      ⟨_, congrArg (· ++ _) (List.map_congr_left fun setting _ => (carrier_dataAddr setting).symm)⟩

theorem Carried.of_nothing {ops : List MenuOp} (nothing : committed ops = []) : Carried ops := by
  constructor <;> simp [nothing]

theorem zeroCompensate_carried (zhuodu : Zhuodu) (retVal : U32) :
    Carried (menuZeroCompensate zhuodu retVal) := by
  refine ⟨?_, .inr ⟨zhuodu, retVal, rfl⟩⟩
  unfold menuZeroCompensate
  split <;> simp [committed, sends, floatMsg]

theorem commit_carried (zhuodu : Zhuodu) (commit : Commit) : Carried (commit.ops zhuodu) := by
  cases commit with
  | rangeSetup stale retVal =>
      by_cases inRange : rangeSel zhuodu < 4
      · exact .of_paired (rangeSetup_paired zhuodu stale retVal inRange)
      · refine .of_nothing ?_
        change committed (menuRangeSetup zhuodu stale retVal) = []
        unfold menuRangeSetup
        split <;> first | omega | rfl
  | rangeSelect retVal => exact .of_paired (rangeSelect_paired zhuodu retVal)
  | coeffAB numberBox numberBox2 =>
      by_cases inRange : rangeSel zhuodu < 4
      · exact .of_paired (coeffAB_paired zhuodu numberBox numberBox2 inRange)
      · refine .of_nothing ?_
        change committed (menuCoeffAB zhuodu numberBox numberBox2) = []
        unfold menuCoeffAB
        split <;> first | omega | rfl
  | signalSetup numberBox numberBox2 =>
      obtain ⟨_, paired⟩ := signalSetup_paired zhuodu numberBox numberBox2
      exact .of_paired paired
  | canbiZhuodu numberBox => exact .of_paired (canbiZhuodu_paired zhuodu numberBox)
  | zeroCompensate retVal => exact zeroCompensate_carried zhuodu retVal
  | linearCaliPoint retVal =>
      obtain ⟨_, paired⟩ := linearCaliPoint_paired zhuodu retVal
      exact .of_paired paired
  | zeroCaliSet setInteger => exact .of_nothing rfl
  | zeroCaliConfirm =>
      refine .of_nothing ?_
      change committed (btnConfirmEvent zhuodu) = []
      unfold btnConfirmEvent
      rcases darkCommand_cases zhuodu with dark | dark | dark <;> rw [dark] <;> rfl
  | fullCali numberBox => exact .of_nothing rfl
  | linearCali numberBox =>
      refine .of_nothing ?_
      change committed (menuLinearCaliSend zhuodu numberBox) = []
      unfold menuLinearCaliSend
      split <;> rfl

theorem prefix_getElem {α : Type} {first whole : List α} {index : Nat} {value : α}
    (begins : first <+: whole) (found : first[index]? = some value) :
    whole[index]? = some value := by
  obtain ⟨inside, rfl⟩ := List.getElem?_eq_some_iff.mp found
  exact List.prefix_iff_getElem?.mp begins index inside

theorem Carried.message {ops : List MenuOp} (carried : Carried ops) {index : Nat}
    {setting : Setting} (assigned : (committed ops)[index]? = some setting) :
    ∃ msg, (sends ops)[index]? = some msg ∧ msg.dat = setting.value ∧
      (msg.dataAddr = setting.field.address ∨ ZeroCompensates ops) := by
  have value := prefix_getElem carried.values
    ((List.getElem?_map ..).trans (congrArg (Option.map Setting.value) assigned))
  rw [List.getElem?_map] at value
  obtain ⟨msg, sent, dat⟩ := Option.map_eq_some_iff.mp value
  refine ⟨msg, sent, dat, carried.registers.imp_left fun registers => ?_⟩
  have register := prefix_getElem registers ((List.getElem?_map ..).trans
    (congrArg (Option.map fun setting => setting.field.address) assigned))
  rw [List.getElem?_map, sent] at register
  exact Option.some.inj register

def stored (state : State) : List Tagged :=
  state.taken ++ state.mq.queued ++ menuNode state.menu

structure DeliveryInvariant (state : State) : Prop where
  carried : ∀ committing, state.menu = some committing → Carried committing.ops
  kept : ∀ committing, state.menu = some committing → ∀ index msg,
    index < (committed committing.ops).length → (sends committing.done)[index]? = some msg →
      (⟨committing.id, index, calibrates committing.ops, msg⟩ : Tagged) ∈ stored state

private theorem delivery_in_place {state following : State} (invariant : DeliveryInvariant state)
    (same : stored following = stored state)
    (continued : ∀ after, following.menu = some after →
      ∃ before, state.menu = some before ∧ Continues before after) :
    DeliveryInvariant following where
  carried := by
    intro after active
    obtain ⟨before, earlier, continues⟩ := continued after active
    rw [continues.ops]
    exact invariant.carried before earlier
  kept := by
    intro after active
    obtain ⟨before, earlier, continues⟩ := continued after active
    rw [continues.ops, continues.done, continues.id, same]
    exact invariant.kept before earlier

/-- A send: its message is stored unless it belongs to no setting. -/
private theorem delivery_send {state following : State} {committing : Committing}
    {msg : ModbusMsg} {rest : List MenuOp} {node : Option Tagged}
    (invariant : DeliveryInvariant state) (active : state.menu = some committing)
    (next : committing.rest = .send msg :: rest)
    (after : following.menu = some (committing.advance (.send msg) rest node))
    (grown : ∀ message, message ∈ stored state → message ∈ stored following)
    (stores : (sends committing.done).length < (committed committing.ops).length →
      committing.tag msg ∈ stored following) : DeliveryInvariant following where
  carried := by
    intro later found
    rw [after] at found
    cases Option.some.inj found
    rw [Committing.advance_ops next]
    exact invariant.carried committing active
  kept := by
    intro later found index sent inside position
    rw [after] at found
    cases Option.some.inj found
    rw [Committing.advance_ops next] at inside ⊢
    rw [sends_advance] at position
    rcases Nat.lt_or_ge index (sends committing.done).length with earlier | newest
    · rw [List.getElem?_append_left earlier] at position
      exact grown _ (invariant.kept committing active index sent inside position)
    · rw [List.getElem?_append_right newest, List.getElem?_singleton] at position
      split at position
      case isTrue last =>
        cases Option.some.inj position
        obtain rfl : index = (sends committing.done).length :=
          Nat.le_antisymm (Nat.sub_eq_zero_iff_le.mp last) newest
        exact stores inside
      case isFalse => cases position

private theorem delivery_confirm {state : State} (commit : Commit) :
    DeliveryInvariant
      { state with
        menu := some ⟨state.nextId, [], commit.ops state.zhuodu, none⟩
        nextId := state.nextId + 1 } where
  carried := by
    intro committing active
    cases Option.some.inj active
    exact commit_carried state.zhuodu commit
  kept := by
    intro committing active index msg _ position
    cases Option.some.inj active
    cases position

theorem deliveryInvariant_step {others : OtherHandlers} {state following : State} {event : Event}
    (invariant : DeliveryInvariant state) (stepped : step others state event = some following)
    (found : SlotFound state event following) : DeliveryInvariant following := by
  cases transition_of_step stepped with
  | confirm idle => exact delivery_confirm _
  | link active held =>
      refine delivery_in_place invariant ?_ ?_
      · simp [stored, menuNode, active, held, MessageQueue.link]
      · intro after later
        cases Option.some.inj later
        exact ⟨_, active, rfl, rfl, rfl, rfl⟩
  | leave active free finished =>
      refine delivery_in_place invariant ?_ ?_
      · simp [stored, menuNode, active, free]
      · intro after later
        cases later
  | edit active free next silent =>
      refine delivery_in_place invariant ?_ ?_
      · simp [stored, menuNode, active, free, Committing.advance, State.assign]
      · intro after later
        cases Option.some.inj later
        exact ⟨_, active, continues_edit next silent⟩
  | full active free next exhausted =>
      refine delivery_send invariant active next rfl ?_ ?_
      · simp [stored, menuNode, active, free, Committing.advance]
      · intro inside
        have room := found _ (State.nextSend_eq active free next) inside
        exact absurd exhausted (Nat.ne_of_gt room)
  | take active free next available =>
      refine delivery_send invariant active next rfl ?_ ?_
      · intro message member
        simp only [stored, menuNode, active, free, Option.toList_none, List.append_nil] at member
        exact List.mem_append_left _ member
      · intro _
        exact List.mem_append_right _ (List.mem_singleton.mpr rfl)
  | unlink waiting first =>
      refine delivery_in_place invariant ?_ fun after later => ⟨after, later, continues_refl after⟩
      simp [stored, first]
  | release copying =>
      exact delivery_in_place invariant rfl fun after later => ⟨after, later, continues_refl after⟩
  | attempt sending allowed =>
      exact delivery_in_place invariant rfl fun after later => ⟨after, later, continues_refl after⟩
  | giveUp sending exhausted =>
      exact delivery_in_place invariant rfl fun after later => ⟨after, later, continues_refl after⟩
  | interfere =>
      exact delivery_in_place invariant rfl fun after later => ⟨after, later, continues_refl after⟩

private theorem leaveKeeps_of_invariant {state following : State} (event : Event)
    (invariant : DeliveryInvariant state) : LeaveKeeps state event following := by
  cases event with
  | menu =>
      intro committing leaving index setting assigned
      obtain ⟨active, finished, free⟩ := leaving_eq leaving
      obtain ⟨msg, sent, dat, register⟩ := (invariant.carried committing active).message assigned
      have inside : index < (committed committing.ops).length := by
        obtain ⟨bound, _⟩ := List.getElem?_eq_some_iff.mp assigned
        exact bound
      have position : (sends committing.done)[index]? = some msg := by
        rw [← sent, Committing.ops, finished, List.append_nil]
      have kept := invariant.kept committing active index msg inside position
      simp only [stored, menuNode, active, free, Option.toList_none, List.append_nil,
        List.mem_append] at kept
      exact ⟨_, kept.symm, rfl, rfl, dat, register⟩
  | _ => trivial

private theorem deliveryInvariant_initial (master : Master) :
    DeliveryInvariant (initial master) where
  carried := fun _ active => nomatch active
  kept := fun _ active => nomatch active

/-- In a run in which every message of an assigned setting finds a free node no
setting is lost, however long the message thread is held up. -/
theorem setting_kept (others : OtherHandlers) (master : Master) (events : List Event)
    (found : Run.AllSteps (step others) SlotFound (initial master) events) :
    Run.AllSteps (step others) LeaveKeeps (initial master) events :=
  Run.allSteps_of_invariant
    (fun _ _ _ invariant stepped found => deliveryInvariant_step invariant stepped found)
    (fun _ event _ invariant _ _ => leaveKeeps_of_invariant event invariant)
    (deliveryInvariant_initial master) found

def slowCoefficients : List Event :=
  .confirm (.coeffAB 0x3F800000 0x40000000) :: List.replicate 4 .menu ++
    [.unlink, .release, .attempt .timeout] ++ List.replicate 3 .menu

theorem setting_kept_slowCoefficients :
    (Run.run (step fun _ => none) (initial powerUpMaster) slowCoefficients).isSome ∧
      Run.AllSteps (step fun _ => none) LeaveKeeps (initial powerUpMaster) slowCoefficients :=
  ⟨by decide +kernel, setting_kept _ _ _ (by decide +kernel)⟩

/-- Thirty-one range changes fill the pool while the message thread is held up; the
thirty-second is assigned and its message is dropped. -/
theorem full_queue_loses_setting :
    ¬ ∀ (others : OtherHandlers) (master : Master) (events : List Event),
      Run.AllSteps (step others) LeaveKeeps (initial master) events := by
  intro always
  let change : List Event := .confirm (.rangeSelect 1) :: List.replicate 4 .menu
  let before : List Event :=
    (List.replicate 31 change).flatten ++ .confirm (.rangeSelect 2) :: List.replicate 2 .menu
  let lost : Setting := ⟨.rangeSel, .half 2, rfl⟩
  let last : Committing := ⟨31, [.assign lost, .send (wordMsg 285 2)], [], none⟩
  have reached : (Run.run (step fun _ => none) (initial powerUpMaster) before).map
      (fun state => (state.menu, (state.mq.queued ++ state.taken).all (·.commit ≠ 31))) =
        some (some last, true) := by
    decide +kernel
  obtain ⟨state, ran, final⟩ := Option.map_eq_some_iff.mp reached
  obtain ⟨active, absent⟩ := Prod.mk.inj final
  have leaving : last ∈ state.leaving := by
    rw [State.leaving, active]
    rfl
  have stepped : step (fun _ => none) state .menu = some { state with menu := none } := by
    simp [step, active, last, menuStep]
  have kept := (always (fun _ => none) powerUpMaster (before ++ [.menu])).last ran stepped
  obtain ⟨message, present, owner, -⟩ := kept last leaving 0 lost rfl
  have foreign := List.all_eq_true.mp absent message (List.mem_append.mpr present)
  exact of_decide_eq_true foreign owner

end ZhuoduControl.System
