import ZhuoduControl.Menu.CommitProperties
import ZhuoduControl.System.NumberValue

/-! The calibration of the current loop: the two pages put the head into a mode, and take it
out again when they leave. -/

set_option autoImplicit false

namespace ZhuoduControl.System

open ZhuoduControl.Library
open ZhuoduControl.Data
open ZhuoduControl.Modbus
open ZhuoduControl.Menu (Commit sends applyMsg darkCommand darkCommand_cases rangeSel)
open ZhuoduControl.Menu.Edit
open ZhuoduControl.Menu.Frame

/-- A pass of the menu thread with the requests that fail in it, those before the editor is
called and those after it. A failed request is `true` where the head has taken the value and
only its answer is lost. -/
structure CurrentPass where
  pass : MenuPass
  opening : List Bool
  ending : List Bool

/-- What the head stores of a request that is repeated until it succeeds. -/
def request (register : Nat) (value : U16) (failed : List Bool) : List (Nat × U16) :=
  (failed.filter id).map (fun _ => (register, value)) ++ [(register, value)]

def currentMode : CurrentPage → U16
  | .mA4 => 1
  | .mA20 => 2

def endingWrites (failed : List Bool) :
    Menu.Edit.SetStat DecimalText.Number → List (Nat × U16)
  | .ok retVal => request 290 (BitVec.ofNat 16 (toBits 16 retVal)) failed
  | .exit => request 289 0 failed
  | _ => []

/-- The requests of `menu_4mA_cali` and `menu_20mA_cali`. -/
def currentWrites (page : CurrentPage) (own : SetIntFloat) (pass : CurrentPass)
    (statics : Statics) : List (Nat × U16) :=
  let opened := openCurrent page own statics
  let setStat :=
    (setIntFloatMinMax pass.pass.key opened.setIntFloat pass.pass.uninitReal opened).2
  (if statics.flagCurrent page then [] else request 289 (currentMode page) pass.opening) ++
    endingWrites pass.ending setStat

/-- The current page that is called. -/
def currentCalled (menu : MenuState) : Option (CurrentPage × SetIntFloat) :=
  match menu.active.map pageBody with
  | some (.current page own) => some (page, own)
  | _ => none

structure LoopState where
  menu : MenuState
  /-- what the head has accepted -/
  registers : Memory U16
  /-- the current page that was called and has not called `leaf_exit` since -/
  entered : Option CurrentPage

inductive LoopEvent
  | pass (pass : CurrentPass)
  /-- the message thread delivers a message of a page -/
  | deliver (zhuodu : Zhuodu) (commit : Commit) (msg : ModbusMsg)

/-- The page has given the message an address: it has none for a range above 3. -/
def Addressed (zhuodu : Zhuodu) : Commit → Prop
  | .rangeSetup _ _ => rangeSel zhuodu < 4
  | _ => True

instance (zhuodu : Zhuodu) (commit : Commit) : Decidable (Addressed zhuodu commit) := by
  cases commit <;> unfold Addressed <;> infer_instance

def LoopEvent.writes (state : LoopState) : LoopEvent → List (Nat × U16)
  | pass turn =>
      match currentCalled state.menu with
      | some (page, own) => currentWrites page own turn state.menu.statics
      | none => []
  | deliver _ _ msg => Memory.block msg.dataAddr.toNat msg.busWords

/-- A page is entered with its first call, and left with the call of `leaf_exit`. -/
def enteredBy (state : LoopState) (pass : CurrentPass) : Option CurrentPage :=
  match currentCalled state.menu with
  | some (page, own) =>
      if (currentPage page own pass.pass state.menu.statics).calls = [] then some page else none
  | none => state.entered

def loopStep (state : LoopState) (event : LoopEvent) : Option LoopState :=
  let registers := state.registers.setAll (event.writes state)
  match event with
  | .pass pass =>
      (menuStep state.menu pass.pass).map fun menu => ⟨menu, registers, enteredBy state pass⟩
  | .deliver zhuodu commit msg =>
      if msg ∈ sends (commit.ops zhuodu) ∧ Addressed zhuodu commit then
        some { state with registers := registers }
      else none

def loopInit : LoopState := ⟨menuInit, fun _ => 0, none⟩

/-- The mode of the head is that of the page that is entered, and a current is set only
through a page that is, between the bounds of the page. -/
structure Bracketed (before : LoopState) (event : LoopEvent) (after : LoopState) : Prop where
  mode : after.registers 289 = (after.entered.map currentMode).getD 0
  written : ∀ word, (290, word) ∈ event.writes before →
    ∃ page own, currentCalled before.menu = some (page, own) ∧ after.entered = some page ∧
      own.min ≤ (word.toNat : Rat) ∧ (word.toNat : Rat) ≤ own.max

section Requests

variable {register : Nat} {value : U16} {failed : List Bool}

theorem request_mem {write : Nat × U16} (member : write ∈ request register value failed) :
    write = (register, value) := by
  rcases List.mem_append.mp member with repeated | last
  · obtain ⟨_, _, same⟩ := List.mem_map.mp repeated
    exact same.symm
  · exact List.mem_singleton.mp last

theorem setAll_request (memory : Memory U16) :
    memory.setAll (request register value failed) register = value := by
  refine Memory.setAll_agreeing _ _ (List.mem_append_right _ (.head _)) ?_
  intro write member _
  rw [request_mem member]

theorem setAll_request_other (memory : Memory U16) {other : Nat} (apart : register ≠ other) :
    memory.setAll (request register value failed) other = memory other := by
  refine Memory.setAll_untouched _ _ ?_
  intro write member
  rw [request_mem member]
  exact apart

end Requests

section Messages

/-- No message of a page is near the two registers. -/
theorem sends_elsewhere {zhuodu : Zhuodu} {commit : Commit} (addressed : Addressed zhuodu commit) :
    ∀ msg ∈ sends (commit.ops zhuodu),
      msg.dataAddr.toNat ≤ 285 ∨ 291 ≤ msg.dataAddr.toNat := by
  have dark : ∀ msg ∈ sends (darkCommand zhuodu),
      msg.dataAddr.toNat ≤ 285 ∨ 291 ≤ msg.dataAddr.toNat := by
    rcases darkCommand_cases zhuodu with shape | shape | shape <;> rw [shape] <;>
      simp [sends, wordMsg]
  cases commit with
  | rangeSetup stale retVal =>
      have cases : rangeSel zhuodu = 0 ∨ rangeSel zhuodu = 1 ∨ rangeSel zhuodu = 2 ∨
          rangeSel zhuodu = 3 := by
        have below : rangeSel zhuodu < 4 := addressed
        omega
      rw [Commit.ops, Menu.menuRangeSetup]
      rcases cases with range | range | range | range <;> rw [range] <;> simp [sends, floatMsg]
  | rangeSelect retVal => simp [Commit.ops, Menu.menuRangeSelect, sends, wordMsg]
  | coeffAB numberBox numberBox2 =>
      rw [Commit.ops, Menu.menuCoeffAB]
      split <;> simp [sends, floatMsg]
  | signalSetup numberBox numberBox2 =>
      simpa [Commit.ops, Menu.menuSignalSetup, sends, wordMsg] using dark
  | canbiZhuodu numberBox => simp [Commit.ops, Menu.menuCanbiZhuodu, sends, floatMsg]
  | zeroCompensate retVal =>
      simp only [Commit.ops, Menu.menuZeroCompensate]
      split <;> simp [sends, floatMsg]
  | linearCaliPoint retVal =>
      simp only [Commit.ops, Menu.menuLinearCaliPoint]
      split <;> simp [sends, wordMsg]
  | zeroCaliSet setInteger => simp [Commit.ops, Menu.btnSetEvent, sends, wordMsg]
  | zeroCaliConfirm => exact dark
  | fullCali numberBox =>
      simp [Commit.ops, Menu.btnFullConfirmEvent, sends, floatMsg, wordMsg]
  | linearCali numberBox =>
      rw [Commit.ops, Menu.menuLinearCaliSend]
      split <;> simp [sends, floatMsg, wordMsg]

theorem message_elsewhere {zhuodu : Zhuodu} {commit : Commit} {msg : ModbusMsg}
    (sent : msg ∈ sends (commit.ops zhuodu)) (addressed : Addressed zhuodu commit) :
    ∀ write ∈ Memory.block msg.dataAddr.toNat msg.busWords, write.1 ≠ 289 ∧ write.1 ≠ 290 := by
  intro write member
  have place := sends_elsewhere addressed msg sent
  have size : msg.dat.width.size ≤ 2 := by cases msg.dat.width <;> decide
  obtain ⟨index, found, placed⟩ := Memory.mem_block.mp member
  have inside := (List.getElem?_eq_some_iff.mp found).1
  rw [ModbusMsg.busWords_eq_registers, Value.registers_length] at inside
  omega

end Messages

section Editor

variable {page : CurrentPage} {own : SetIntFloat} {statics : Statics}

theorem current_own {func : PageFunc} (called : pageBody func = .current page own) :
    own.dataType = .int16 ∧ 0 ≤ own.min ∧ own.max < 65536 := by
  cases func <;> cases called <;> refine ⟨rfl, ?_, ?_⟩ <;> dsimp only <;> decide

theorem openCurrent_flagCurrent : (openCurrent page own statics).flagCurrent page = true := by
  rw [openCurrent]
  split
  · next raised => exact raised
  · cases page with
    | mA4 => rfl
    | mA20 => rfl

def currentCall (own : SetIntFloat) (pass : CurrentPass) : EditorCall :=
  ⟨pass.pass.key, own, pass.pass.uninitReal⟩

def currentSession (page : CurrentPage) (own : SetIntFloat) (statics : Statics) : EditorSession :=
  ⟨openCurrent page own statics, false⟩

variable (pass : CurrentPass)

theorem currentPage_eq (owns : Owns (.current page own) statics) :
    currentPage page own pass.pass statics =
      if ((currentCall own pass).result (currentSession page own statics)).2.exits then
        ⟨((currentCall own pass).result (currentSession page own statics)).1.withFlagCurrent
          false page, [.leafExit], false⟩
      else ⟨((currentCall own pass).result (currentSession page own statics)).1, [], false⟩ := by
  unfold currentPage EditorCall.result currentCall currentSession
  dsimp only
  rw [openCurrent_setIntFloat owns]
  split
  · next edited result => rw [result]; rfl
  · next edited setStat inside result =>
      rw [result]
      cases setStat with
      | exit => exact absurd rfl inside
      | ok retVal => rfl
      | ing => rfl
      | maxMinError => rfl

theorem currentWrites_eq (owns : Owns (.current page own) statics) :
    currentWrites page own pass statics =
      (if statics.flagCurrent page then [] else request 289 (currentMode page) pass.opening) ++
        endingWrites pass.ending
          ((currentCall own pass).result (currentSession page own statics)).2 := by
  unfold currentWrites EditorCall.result currentCall currentSession
  dsimp only
  rw [openCurrent_setIntFloat owns]

theorem toBits_integer {value : Int} (lower : 0 ≤ value) (upper : value < 65536) :
    ((BitVec.ofNat 16 (toBits 16 (.finite value))).toNat : Int) = value := by
  have whole : truncated (.finite value) = value := by
    rw [truncated, Rat.num_intCast, Rat.den_intCast]
    exact Int.tdiv_one value
  rw [toBits, whole, BitVec.toNat_ofNat, BitVec.toNat_ofInt]
  omega

end Editor

/-- What holds between two events. -/
structure Bracket (state : LoopState) : Prop where
  running : Running state.menu
  owned : Owned state.menu
  raised : ∀ page, state.entered = some page ↔ state.menu.statics.flagCurrent page = true
  mode : state.registers 289 = (state.entered.map currentMode).getD 0
  session : ∀ page own, currentCalled state.menu = some (page, own) →
    SessionGood .int16 ⟨state.menu.statics, false⟩

section Steps

variable {state : LoopState} {menu : MenuState} {page : CurrentPage} {own : SetIntFloat}

theorem currentCalled_some (called : currentCalled menu = some (page, own)) :
    ∃ func, menu.active = some func ∧ pageBody func = .current page own := by
  unfold currentCalled at called
  split at called
  · next same =>
      cases called
      exact Option.map_eq_some_iff.mp same
  · cases called

theorem currentCalled_of_active {func : PageFunc} (active : menu.active = some func)
    (body : pageBody func = .current page own) : currentCalled menu = some (page, own) := by
  rw [currentCalled, active, Option.map_some, body]

theorem called_of_flagCurrent (owned : Owned menu)
    (raised : menu.statics.flagCurrent page = true) :
    ∃ own, currentCalled menu = some (page, own) := by
  cases active : menu.active with
  | none => cases (owned.list active (.current page)).symm.trans raised
  | some func =>
      cases (owned.page func active).raised (.current page) raised with
      | editor calls =>
          cases body : pageBody func <;> rw [body] at calls <;> cases calls
      | current same => exact ⟨_, currentCalled_of_active active same⟩

theorem flagCurrent_off (owned : Owned menu) (off : currentCalled menu = none) :
    menu.statics.flagCurrent page = false := by
  cases raised : menu.statics.flagCurrent page with
  | false => rfl
  | true =>
      obtain ⟨own, called⟩ := called_of_flagCurrent owned raised
      cases off.symm.trans called

theorem pass_elsewhere {pass : CurrentPass} (held : Bracket state)
    (off : currentCalled state.menu = none)
    (stepped : menuStep state.menu pass.pass = some menu) :
    Bracket ⟨menu, state.registers, state.entered⟩ := by
  obtain ⟨running, turn⟩ := held.running.step stepped
  obtain ⟨owned, free⟩ := turn.owned held.owned
  have again (same : menu.active = state.menu.active) : currentCalled menu = none := by
    rw [← off, currentCalled, currentCalled, same]
  have lowered (page : CurrentPage) : menu.statics.flagCurrent page = false := by
    rcases free with idle | ⟨func, same⟩
    · exact idle (.current page)
    · exact flagCurrent_off owned (again (same.again.trans same.called.symm))
  refine ⟨running, owned, ?_, held.mode, ?_⟩
  · intro page
    rw [held.raised page, flagCurrent_off held.owned off, lowered page]
  · intro page own called
    rcases free with idle | ⟨func, same⟩
    · intro flag
      cases (idle .number).symm.trans flag
    · cases (again (same.again.trans same.called.symm)).symm.trans called

theorem menuStep_current (pass : CurrentPass) {func : PageFunc} (running : Running state.menu)
    (active : state.menu.active = some func) (body : pageBody func = .current page own)
    (owns : Owns (.current page own) state.menu.statics) :
    menuStep state.menu pass.pass = some
      (if ((currentCall own pass).result
          (currentSession page own state.menu.statics)).2.exits then
        ⟨state.menu.frame.leafExit, ((currentCall own pass).result
          (currentSession page own state.menu.statics)).1.withFlagCurrent false page⟩
      else ⟨state.menu.frame, ((currentCall own pass).result
          (currentSession page own state.menu.statics)).1⟩) := by
  have leaf : state.menu.frame.menuStatus = .leaf := by
    rcases running.place active with ⟨_, leaf, _⟩ | ⟨_, _, leaf, _⟩
    · exact leaf
    · exact leaf
  have result : runPage pass.pass state.menu.statics (pageBody func) =
      currentPage page own pass.pass state.menu.statics := by rw [body, runPage]
  rw [currentPage_eq pass owns] at result
  split at result
  · next exits =>
      rw [menuStep_page leaf active (by rw [result]), result, if_pos exits]
      exact frameStep_call leaf rfl
  · next stays =>
      rw [menuStep_page leaf active (by rw [result]), result, if_neg stays]
      exact frameStep_nil leaf

theorem opening_mode (page : CurrentPage) (pass : CurrentPass) (held : Bracket state) :
    state.registers.setAll (if state.menu.statics.flagCurrent page then []
        else request 289 (currentMode page) pass.opening) 289 = currentMode page := by
  cases raised : state.menu.statics.flagCurrent page with
  | true =>
      rw [if_pos rfl, Memory.setAll_nil, held.mode, (held.raised page).mpr raised]
      rfl
  | false => exact setAll_request state.registers

theorem opening_elsewhere {pass : CurrentPass} {raised : Bool} {word : U16} :
    (290, word) ∉ if raised then [] else request 289 (currentMode page) pass.opening := by
  cases raised with
  | true => exact List.not_mem_nil
  | false =>
      intro member
      cases (Prod.mk.inj (request_mem member)).1

theorem written_inRange {pass : CurrentPass} {func : PageFunc} {retVal : DecimalText.Number}
    {session : EditorSession} (body : pageBody func = .current page own)
    (good : SessionGood .int16 session)
    (ok : ((currentCall own pass).result session).2 = .ok retVal) :
    own.min ≤ ((BitVec.ofNat 16 (toBits 16 retVal)).toNat : Rat) ∧
      ((BitVec.ofNat 16 (toBits 16 retVal)).toNat : Rat) ≤ own.max := by
  obtain ⟨type, positive, bounded⟩ := current_own body
  have integral : own.dataType.integral = true := by rw [type]; rfl
  have begins : Begins .int16 own := type ▸ integral_begins integral
  have opened : Opened (currentCall own pass).args.dataType
      ((currentCall own pass).opened session) := by
    rw [show (currentCall own pass).args.dataType = .int16 from type]
    exact good.opened begins
  obtain ⟨value, rfl, lower, upper⟩ := integer_of_ok integral opened ok
  have above : 0 ≤ value := Rat.intCast_nonneg.mp (Rat.le_trans positive lower)
  have below : value < 65536 := by
    refine Rat.intCast_lt_intCast.mp ?_
    exact lt_of_le_of_lt upper bounded
  have same := congrArg (fun word : Int => (word : Rat)) (toBits_integer above below)
  rw [Rat.intCast_natCast] at same
  rw [same]
  exact ⟨lower, upper⟩

theorem endingWrites_mode (failed : List Bool) (memory : Memory U16)
    {setStat : Menu.Edit.SetStat DecimalText.Number} (stays : setStat.exits = false) :
    memory.setAll (endingWrites failed setStat) 289 = memory 289 := by
  cases setStat with
  | ok retVal => exact setAll_request_other memory (by decide)
  | ing => rfl
  | maxMinError => rfl
  | exit => cases stays

theorem edited_flagCurrent (pass : CurrentPass) (statics : Statics) :
    ((currentCall own pass).result (currentSession page own statics)).1.flagCurrent page =
      true := by
  have frame := setIntFloatMinMax_frame pass.pass.key own pass.pass.uninitReal
    (openCurrent page own statics)
  exact (raised_current frame.flag4mA frame.flag20mA page).trans openCurrent_flagCurrent

theorem edited_good {func : PageFunc} {pass : CurrentPass} {session : EditorSession}
    (body : pageBody func = .current page own) (good : SessionGood .int16 session)
    (inside : session.exited = false) :
    SessionGood .int16 ⟨((currentCall own pass).result session).1, false⟩ := by
  obtain ⟨type, _⟩ := current_own body
  have begins : Begins .int16 own := type ▸ integral_begins (by rw [type]; rfl)
  have stepped : editorStep session (currentCall own pass) = some
      ⟨((currentCall own pass).result session).1,
        ((currentCall own pass).result session).2.exits⟩ := by
    rw [editorStep, inside]
    rfl
  refine (editorStep_iff good begins stepped).2 ?_
  rintro ⟨_, float, _⟩
  cases type.symm.trans float

theorem entered_called (pass : CurrentPass) (called : currentCalled state.menu = some (page, own))
    (owns : Owns (.current page own) state.menu.statics) :
    enteredBy state pass =
      if ((currentCall own pass).result (currentSession page own state.menu.statics)).2.exits then
        none else some page := by
  unfold enteredBy
  rw [called]
  dsimp only
  rw [currentPage_eq pass owns]
  split
  · rfl
  · rfl

/-- A current is only written when the editor returns it. -/
theorem written_called {pass : CurrentPass} {word : U16}
    (called : currentCalled state.menu = some (page, own))
    (owns : Owns (.current page own) state.menu.statics)
    (member : (290, word) ∈ LoopEvent.writes state (.pass pass)) :
    ∃ retVal, ((currentCall own pass).result
      (currentSession page own state.menu.statics)).2 = .ok retVal ∧
        word = BitVec.ofNat 16 (toBits 16 retVal) := by
  unfold LoopEvent.writes at member
  rw [called] at member
  dsimp only at member
  rw [currentWrites_eq pass owns] at member
  rcases List.mem_append.mp member with first | last
  · exact absurd first opening_elsewhere
  · cases result : ((currentCall own pass).result
        (currentSession page own state.menu.statics)).2 with
    | ok retVal =>
        rw [result] at last
        exact ⟨retVal, rfl, (Prod.mk.inj (request_mem last)).2⟩
    | exit =>
        rw [result] at last
        cases (Prod.mk.inj (request_mem last)).1
    | ing =>
        rw [result] at last
        cases last
    | maxMinError =>
        rw [result] at last
        cases last

theorem exit_of_exits {setStat : Menu.Edit.SetStat DecimalText.Number}
    (exits : setStat.exits = true) : setStat = .exit := by
  cases setStat with
  | exit => rfl
  | ok => cases exits
  | ing => cases exits
  | maxMinError => cases exits

/-- A pass of a current page keeps the mode of the page, or leaves it. -/
theorem pass_called {pass : CurrentPass} (held : Bracket state)
    (called : currentCalled state.menu = some (page, own))
    (stepped : menuStep state.menu pass.pass = some menu) :
    let next : LoopState := ⟨menu, state.registers.setAll
      (currentWrites page own pass state.menu.statics), enteredBy state pass⟩
    Bracket next ∧ Bracketed state (.pass pass) next := by
  obtain ⟨func, active, body⟩ := currentCalled_some called
  obtain ⟨running, turn⟩ := held.running.step stepped
  obtain ⟨owned, _⟩ := turn.owned held.owned
  have owns : Owns (.current page own) state.menu.statics := body ▸ held.owned.page func active
  have good := (held.session page own called).openCurrent page own
  have writes := currentWrites_eq pass owns
  have opened := opening_mode page pass held
  have entered := entered_called pass called owns
  have shown := menuStep_current pass held.running active body owns
  rw [stepped] at shown
  dsimp only
  rw [entered, writes]
  cases exits : ((currentCall own pass).result
      (currentSession page own state.menu.statics)).2.exits with
  | true =>
      rw [exits, if_pos rfl] at shown
      have menu_eq := Option.some.inj shown
      have off : currentCalled menu = none := by
        rw [menu_eq]
        rfl
      have left := exit_of_exits exits
      rw [left, if_pos rfl, Memory.setAll_append]
      refine ⟨⟨running, owned, ?_, setAll_request _, ?_⟩, setAll_request _, ?_⟩
      · intro other
        rw [flagCurrent_off owned off]
        exact iff_of_false nofun nofun
      · intro other args again
        cases off.symm.trans again
      · intro word member
        obtain ⟨retVal, ok, _⟩ := written_called called owns member
        cases left.symm.trans ok
  | false =>
      rw [exits, if_neg Bool.false_ne_true] at shown
      have menu_eq := Option.some.inj shown
      have again : currentCalled menu = some (page, own) := by
        rw [menu_eq]
        exact currentCalled_of_active active body
      rw [if_neg Bool.false_ne_true, Memory.setAll_append]
      have mode := (endingWrites_mode pass.ending _ exits).trans opened
      refine ⟨⟨running, owned, ?_, mode, ?_⟩, mode, ?_⟩
      · intro other
        constructor
        · rintro ⟨⟩
          rw [menu_eq]
          exact edited_flagCurrent pass state.menu.statics
        · intro raised
          obtain ⟨args, same⟩ := called_of_flagCurrent owned raised
          cases again.symm.trans same
          rfl
      · intro other args same
        cases again.symm.trans same
        rw [menu_eq]
        exact edited_good body good rfl
      · intro word member
        obtain ⟨retVal, ok, rfl⟩ := written_called called owns member
        exact ⟨page, own, called, rfl, written_inRange body good ok⟩

theorem loopStep_bracketed {event : LoopEvent} {next : LoopState} (held : Bracket state)
    (stepped : loopStep state event = some next) :
    Bracket next ∧ Bracketed state event next := by
  cases event with
  | pass pass =>
      obtain ⟨menu, menuStepped, rfl⟩ := Option.map_eq_some_iff.mp stepped
      cases called : currentCalled state.menu with
      | some entry =>
          have writes : LoopEvent.writes state (.pass pass) =
              currentWrites entry.1 entry.2 pass state.menu.statics := by
            rw [LoopEvent.writes, called]
          rw [writes]
          exact pass_called held called menuStepped
      | none =>
          have writes : LoopEvent.writes state (.pass pass) = [] := by
            rw [LoopEvent.writes, called]
          have entered : enteredBy state pass = state.entered := by
            rw [enteredBy, called]
          rw [writes, entered]
          have kept := pass_elsewhere held called menuStepped
          refine ⟨kept, kept.mode, ?_⟩
          intro word member
          rw [writes] at member
          cases member
  | deliver zhuodu commit msg =>
      unfold loopStep at stepped
      dsimp only at stepped
      split at stepped
      · next delivered =>
          cases Option.some.inj stepped
          have apart := message_elsewhere delivered.1 delivered.2
          have mode : state.registers.setAll (LoopEvent.writes state (.deliver zhuodu commit msg))
              289 = (state.entered.map currentMode).getD 0 :=
            (Memory.setAll_untouched _ _ fun write member => (apart write member).1).trans held.mode
          refine ⟨⟨held.running, held.owned, held.raised, mode, held.session⟩, mode, ?_⟩
          intro word member
          exact absurd rfl (apart _ member).2
      · cases stepped

theorem loopInit_bracket : Bracket loopInit where
  running := menuInit_running
  owned := cleared_idle.owned
  raised := by
    intro page
    rw [show loopInit.menu.statics.flagCurrent page = false from cleared_idle (.current page)]
    exact iff_of_false nofun nofun
  mode := rfl
  session := by
    intro page own _ flag
    cases flag

end Steps

section Instance

def keyEvent (opening ending : List Bool) (key : KeyCode) : LoopEvent :=
  .pass ⟨⟨key, GlobalDef.cleared, [], .nan, 0, false⟩, opening, ending⟩

/-- From the page of the root to node 0.3.0, where 4000 is edited to 4100. -/
def editKeys : List LoopEvent :=
  [.downOk, .downDown, .downDown, .downDown, .downOk, .downOk].map (keyEvent [] []) ++
    keyEvent [false, true] [] .none ::
    [.downOk, .downOk, .downUp, .downMenu].map (keyEvent [] [])

def shownLoop (state : LoopState) : Option CurrentPage × U16 × U16 :=
  (state.entered, state.registers 289, state.registers 290)

/-- Two requests fail when the page is entered, one when the current is saved and one when the
page is left. -/
example : (Run.run loopStep loopInit editKeys).map shownLoop = some (some .mA4, 1, 0) ∧
    (Run.run loopStep loopInit (editKeys ++ [keyEvent [] [true] .downMenu])).map shownLoop =
      some (some .mA4, 1, 4100) ∧
    (Run.run loopStep loopInit (editKeys ++ [keyEvent [] [true] .downMenu,
      keyEvent [] [] .downMenu, keyEvent [] [false] .downOk])).map shownLoop =
        some (none, 0, 4100) := by
  decide +kernel

end Instance

end ZhuoduControl.System
