import ZhuoduControl.Drivers.BspButton
import ZhuoduControl.Library.Run

/-! The ring of key codes between the key thread and the menu thread. The key thread has the
higher priority, so that a `PutKey` is not interrupted; it may come between any two accesses
of a `GetKey`. -/

set_option autoImplicit false

namespace ZhuoduControl.Drivers.Button

open ZhuoduControl.Data
open ZhuoduControl.Library

/-- How far a call of `GetKey` has come. -/
inductive Getting
  | outside
  /-- the indices were found to differ -/
  | chosen
  | fetched (ret : U8)
  /-- `Read` is incremented and may be one too large -/
  | advanced (ret : U8)
deriving DecidableEq, Repr

/-- The ring with what has been put into it and what the calls of `GetKey` have returned. -/
structure QueueState where
  key : KeyFifo
  getting : Getting
  puts : List U8
  /-- the codes among them that were not refused -/
  accepted : List U8
  results : List U8

inductive QueueEvent
  | putKey (keyCode : U8)
  /-- the next access of `GetKey` -/
  | getKey

namespace QueueState

def empty : QueueState := ⟨⟨fun _ => 0, 0, 0⟩, .outside, [], [], []⟩

/-- The index of the first code that no call of `GetKey` has decided for. -/
def first (state : QueueState) : Nat :=
  match state.getting with
  | .outside => state.key.read
  | .chosen => RingBuffer.next keyFifoSize state.key.read
  | .fetched _ => RingBuffer.next keyFifoSize state.key.read
  | .advanced _ => if keyFifoSize ≤ state.key.read then 0 else state.key.read

/-- The codes that the ring holds. -/
def held (state : QueueState) : List U8 :=
  RingBuffer.contents state.key.buf keyFifoSize state.first state.key.write

/-- The code that the call of `GetKey` is going to return. -/
def inFlight (state : QueueState) : List U8 :=
  match state.getting with
  | .outside => []
  | .chosen => [state.key.buf state.key.read]
  | .fetched ret => [ret]
  | .advanced ret => [ret]

/-- The codes that are not to be lost. -/
def stored (state : QueueState) : List U8 := state.inFlight ++ state.held

/-- A ring whose indices tell full from empty refuses a code when it holds all but one. -/
def Full (state : QueueState) : Prop := keyFifoSize - 1 ≤ state.held.length

instance (state : QueueState) : Decidable state.Full :=
  inferInstanceAs (Decidable (_ ≤ _))

def returned (state : QueueState) : List U8 :=
  state.results.filter fun keyCode => keyCode ≠ keyNone

/-- One access of `GetKey`; the last one wraps the index and returns. -/
def get (state : QueueState) : QueueState :=
  match state.getting with
  | .outside =>
      if state.key.read = state.key.write then
        { state with results := state.results ++ [keyNone] }
      else { state with getting := .chosen }
  | .chosen => { state with getting := .fetched (state.key.buf state.key.read) }
  | .fetched ret =>
      { state with key := { state.key with read := state.key.read + 1 }, getting := .advanced ret }
  | .advanced ret =>
      let read := if keyFifoSize ≤ state.key.read then 0 else state.key.read
      { state with
        key := { state.key with read := read }
        getting := .outside
        results := state.results ++ [ret] }

def put (keyCode : U8) (state : QueueState) : QueueState :=
  { state with
    key := putKey keyCode state.key
    puts := state.puts ++ [keyCode]
    accepted := if state.Full then state.accepted else state.accepted ++ [keyCode] }

end QueueState

def queueStep (state : QueueState) : QueueEvent → Option QueueState
  | .putKey keyCode => some (state.put keyCode)
  | .getKey => some state.get

/-- A bounded queue: what is returned was put, in order and once; nothing is returned only
if nothing is left; and what is stored stays there. -/
structure Queues (before : QueueState) (event : QueueEvent) (after : QueueState) : Prop where
  order : after.returned.Sublist after.puts
  none : after.results = before.results ++ [keyNone] → before.returned = before.accepted
  kept : ∀ keyCode, event = .putKey keyCode → before.stored <+: after.stored

/-- A code is put only into a ring that has room for it. -/
def PutsWithRoom (before : QueueState) (event : QueueEvent) (_after : QueueState) : Prop :=
  ∀ keyCode, event = .putKey keyCode → ¬ before.Full

/-- `KEY_NONE` is not put. -/
def QueueEvent.Coded (event : QueueEvent) : Prop := event ≠ .putKey keyNone

/-- What holds as long as no code has been put into a full ring. -/
structure QueueGood (state : QueueState) : Prop where
  conserved : state.returned ++ state.stored = state.accepted
  accepted : state.accepted = state.puts
  coded : ∀ keyCode ∈ state.puts, keyCode ≠ keyNone
  read : state.key.read ≤ keyFifoSize
  settled : (∀ ret, state.getting ≠ .advanced ret) → state.key.read < keyFifoSize
  write : state.key.write < keyFifoSize

section Steps

variable {state : QueueState}

theorem QueueState.empty_good : QueueGood .empty where
  conserved := rfl
  accepted := rfl
  coded _ member := nomatch member
  read := by decide
  settled _ := by decide
  write := by decide

theorem QueueGood.first (good : QueueGood state) : state.first < keyFifoSize := by
  unfold QueueState.first
  cases getting : state.getting with
  | outside => exact good.settled (by simp [getting])
  | chosen => exact RingBuffer.next_lt (good.settled (by simp [getting]))
  | fetched ret => exact RingBuffer.next_lt (good.settled (by simp [getting]))
  | advanced ret =>
      dsimp only
      split
      · decide
      · next short => exact Nat.lt_of_not_le short

theorem QueueGood.unread (good : QueueGood state) (chosen : state.getting = .chosen)
    (room : ¬ state.Full) : state.key.read ≠ state.key.write := by
  intro same
  have inside : state.key.read < keyFifoSize := good.settled (by simp [chosen])
  have first : state.first = RingBuffer.next keyFifoSize state.key.read := by
    simp [QueueState.first, chosen]
  apply room
  unfold QueueState.Full QueueState.held
  rw [RingBuffer.contents_length, first, ← same]
  unfold RingBuffer.count RingBuffer.next
  grind

theorem QueueGood.stored_put (keyCode : U8) (good : QueueGood state) (room : ¬ state.Full) :
    (state.put keyCode).stored = state.stored ++ [keyCode] := by
  have short : RingBuffer.count keyFifoSize state.first state.key.write + 1 < keyFifoSize := by
    unfold QueueState.Full QueueState.held at room
    rw [RingBuffer.contents_length] at room
    omega
  have behind := RingBuffer.contents_write state.key.buf keyCode good.first good.write short
  have flight : (state.put keyCode).inFlight = state.inFlight := by
    unfold QueueState.inFlight QueueState.put
    cases getting : state.getting with
    | chosen => simp [putKey, Memory.set_other _ _ (good.unread getting room)]
    | outside => rfl
    | fetched ret => rfl
    | advanced ret => rfl
  unfold QueueState.stored
  rw [flight, List.append_assoc]
  exact congrArg _ behind

theorem QueueGood.put {keyCode : U8} (good : QueueGood state) (room : ¬ state.Full)
    (coded : keyCode ≠ keyNone) : QueueGood (state.put keyCode) where
  conserved := by
    rw [good.stored_put keyCode room, ← List.append_assoc]
    show state.returned ++ state.stored ++ [keyCode] = if state.Full then _ else _
    rw [if_neg room, good.conserved]
  accepted := by
    show (if state.Full then state.accepted else state.accepted ++ [keyCode]) = _
    rw [if_neg room, good.accepted]
    rfl
  coded other member := by
    rcases List.mem_append.mp member with earlier | last
    · exact good.coded other earlier
    · rw [List.mem_singleton.mp last]
      exact coded
  read := good.read
  settled := good.settled
  write := RingBuffer.next_lt good.write

theorem QueueGood.returned_end {ret : U8} (good : QueueGood state)
    (advanced : state.getting = .advanced ret) :
    ret ≠ keyNone ∧ state.get.returned = state.returned ++ [ret] := by
  have code : ret ≠ keyNone := by
    apply good.coded
    rw [← good.accepted, ← good.conserved]
    simp [QueueState.stored, QueueState.inFlight, advanced]
  refine ⟨code, ?_⟩
  simp [QueueState.get, QueueState.returned, advanced, code]

/-- An access of `GetKey` does not change what is returned and stored. -/
theorem QueueGood.conserved_get (good : QueueGood state) :
    state.get.returned ++ state.get.stored = state.returned ++ state.stored := by
  cases getting : state.getting with
  | outside =>
      have inside := good.settled (by simp [getting])
      by_cases same : state.key.read = state.key.write
      · simp [QueueState.get, QueueState.returned, QueueState.stored, QueueState.inFlight,
          QueueState.held, QueueState.first, getting, same]
      · simp [QueueState.get, QueueState.returned, QueueState.stored, QueueState.inFlight,
          QueueState.held, QueueState.first, getting, same,
          RingBuffer.contents_read inside good.write same]
  | chosen =>
      simp [QueueState.get, QueueState.returned, QueueState.stored, QueueState.inFlight,
        QueueState.held, QueueState.first, getting]
  | fetched ret =>
      simp [QueueState.get, QueueState.returned, QueueState.stored, QueueState.inFlight,
        QueueState.held, QueueState.first, getting, RingBuffer.next]
  | advanced ret =>
      rw [(good.returned_end getting).2, List.append_assoc]
      simp [QueueState.get, QueueState.stored, QueueState.inFlight, QueueState.held,
        QueueState.first, getting]

theorem get_unchanged (state : QueueState) :
    state.get.accepted = state.accepted ∧ state.get.puts = state.puts ∧
      state.get.key.write = state.key.write := by
  unfold QueueState.get
  cases state.getting with
  | outside =>
      dsimp only
      split
      · exact ⟨rfl, rfl, rfl⟩
      · exact ⟨rfl, rfl, rfl⟩
  | chosen => exact ⟨rfl, rfl, rfl⟩
  | fetched ret => exact ⟨rfl, rfl, rfl⟩
  | advanced ret => exact ⟨rfl, rfl, rfl⟩

theorem QueueGood.read_get (good : QueueGood state) :
    state.get.key.read ≤ keyFifoSize ∧
      ((∀ ret, state.get.getting ≠ .advanced ret) → state.get.key.read < keyFifoSize) := by
  unfold QueueState.get
  cases getting : state.getting with
  | outside =>
      have inside := good.settled (by simp [getting])
      dsimp only
      split
      · exact ⟨good.read, fun _ => inside⟩
      · exact ⟨good.read, fun _ => inside⟩
  | chosen => exact ⟨good.read, fun _ => good.settled (by simp [getting])⟩
  | fetched ret => exact ⟨good.settled (by simp [getting]), fun still => absurd rfl (still ret)⟩
  | advanced ret =>
      dsimp only
      split
      · exact ⟨by decide, fun _ => by decide⟩
      · next short => exact ⟨good.read, fun _ => Nat.lt_of_not_le short⟩

theorem QueueGood.get (good : QueueGood state) : QueueGood state.get := by
  obtain ⟨accepted, puts, write⟩ := get_unchanged state
  refine ⟨?_, ?_, ?_, good.read_get.1, good.read_get.2, ?_⟩
  · rw [good.conserved_get, accepted, good.conserved]
  · rw [accepted, puts, good.accepted]
  · rw [puts]
    exact good.coded
  · rw [write]
    exact good.write

theorem QueueGood.none_left (good : QueueGood state)
    (none : state.get.results = state.results ++ [keyNone]) : state.returned = state.accepted := by
  cases getting : state.getting with
  | outside =>
      by_cases same : state.key.read = state.key.write
      · have stored : state.stored = [] := by
          simp [QueueState.stored, QueueState.inFlight, QueueState.held, QueueState.first, getting,
            same]
        rw [← good.conserved, stored, List.append_nil]
      · simp [QueueState.get, getting, same] at none
  | chosen => simp [QueueState.get, getting] at none
  | fetched ret => simp [QueueState.get, getting] at none
  | advanced ret =>
      have code := (good.returned_end getting).1
      simp [QueueState.get, getting, code] at none

/-- A ring that is full is empty once another code is put. -/
theorem QueueGood.overrun {keyCode : U8} (good : QueueGood state) (full : state.Full) :
    ¬ state.stored <+: (state.put keyCode).stored := by
  intro kept
  have emptied : (state.put keyCode).held = [] := by
    unfold QueueState.Full QueueState.held at full
    rw [RingBuffer.contents_length] at full
    exact RingBuffer.contents_overrun _ good.first good.write (Nat.le_add_of_sub_le full)
  have flight : (state.put keyCode).inFlight.length = state.inFlight.length := by
    unfold QueueState.inFlight QueueState.put
    cases state.getting <;> rfl
  have longer := kept.length_le
  unfold QueueState.stored at longer
  rw [List.length_append, List.length_append, emptied, flight] at longer
  have some_code : keyFifoSize - 1 ≤ state.held.length := full
  have size : keyFifoSize = 5 := rfl
  simp only [List.length_nil] at longer
  omega

theorem QueueGood.order (good : QueueGood state) : state.returned.Sublist state.puts := by
  rw [← good.accepted, ← good.conserved]
  exact List.sublist_append_left _ _

end Steps

theorem queues_iff (state : QueueState) (event : QueueEvent) (after : QueueState)
    (good : QueueGood state) (coded : event.Coded) (stepped : queueStep state event = some after) :
    Queues state event after ↔ PutsWithRoom state event after := by
  cases event with
  | putKey keyCode =>
      cases Option.some.inj stepped
      constructor
      · rintro ⟨_, _, kept⟩ other same full
        exact good.overrun full (kept keyCode rfl)
      · intro room
        have free := room keyCode rfl
        have code : keyCode ≠ keyNone := fun none => coded (by rw [none])
        refine ⟨(good.put free code).order, fun none => ?_, fun other same => ?_⟩
        · exact absurd (congrArg List.length none) (by simp [QueueState.put])
        · rw [good.stored_put keyCode free]
          exact List.prefix_append _ _
  | getKey =>
      cases Option.some.inj stepped
      refine iff_of_true ⟨good.get.order, good.none_left, nofun⟩ nofun

theorem queueGood_step (state : QueueState) (event : QueueEvent) (after : QueueState)
    (good : QueueGood state) (coded : event.Coded) (stepped : queueStep state event = some after)
    (room : PutsWithRoom state event after) : QueueGood after := by
  cases event with
  | putKey keyCode =>
      cases Option.some.inj stepped
      exact good.put (room keyCode rfl) fun none => coded (by rw [none])
  | getKey =>
      cases Option.some.inj stepped
      exact good.get

/-- The ring is a bounded queue exactly as long as no code is put while it is full. -/
theorem keyFifo_queue_iff (events : List QueueEvent) (coded : ∀ event ∈ events, event.Coded) :
    Run.AllSteps queueStep Queues .empty events ↔
      Run.AllSteps queueStep PutsWithRoom .empty events :=
  Run.allSteps_iff_of_labels queues_iff queueGood_step coded QueueState.empty_good

theorem keyFifo_queue_iff_pressed :
    Run.AllSteps queueStep Queues .empty [.putKey keyDownUp, .getKey] ↔
      Run.AllSteps queueStep PutsWithRoom .empty [.putKey keyDownUp, .getKey] :=
  keyFifo_queue_iff _ (by simp [QueueEvent.Coded, keyDownUp, keyNone])

/-- The codes of presses and releases that come while the menu thread is held up. -/
def heldUp : List QueueEvent :=
  [.putKey keyDownUp, .putKey keyUpUp, .putKey keyDownOk, .putKey keyUpOk, .putKey keyDownMenu]

/-- The fifth code makes the ring an empty one, and `GetKey` returns nothing. -/
theorem five_keys_lost :
    ¬ ∀ events : List QueueEvent, (∀ event ∈ events, event.Coded) →
      Run.AllSteps queueStep Queues .empty events := by
  intro always
  have all := always (heldUp ++ [.getKey])
    (by simp [heldUp, QueueEvent.Coded, keyDownUp, keyUpUp, keyDownOk, keyUpOk, keyDownMenu, keyNone])
  have lost : (Run.run queueStep .empty heldUp).map (fun state =>
      (state.get.results, state.results, state.returned, state.accepted.length)) =
        some ([keyNone], [], [], 4) := by
    decide +kernel
  obtain ⟨state, ran, found⟩ := Option.map_eq_some_iff.mp lost
  simp only [Prod.mk.injEq] at found
  obtain ⟨results, before, returned, accepted⟩ := found
  have none := (all.last ran rfl).none (by rw [results, before]; rfl)
  rw [← none, returned] at accepted
  cases accepted

end ZhuoduControl.Drivers.Button
