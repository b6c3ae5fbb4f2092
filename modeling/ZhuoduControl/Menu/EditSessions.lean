import ZhuoduControl.Menu.EditorProperties
import ZhuoduControl.Menu.MenuRuns

/-! The pages share the statics of the editors, and every page finds them free. -/

set_option autoImplicit false

namespace ZhuoduControl.Menu.Edit

open ZhuoduControl.Library
open ZhuoduControl.Data
open ZhuoduControl.Menu.Frame

/-- What has a first-call flag: an editor, or one of the two current pages. -/
inductive Session
  | select
  | number
  | password
  | current (page : CurrentPage)
deriving DecidableEq

/-- The first-call flag is set. -/
def Statics.raised (statics : Statics) : Session → Bool
  | .select => statics.select.flag1st
  | .number => statics.number.flag1st
  | .password => statics.password.flag
  | .current page => statics.flagCurrent page

def PageBody.editor : PageBody → Option Session
  | .select _ => some .select
  | .number _ => some .number
  | .current _ _ => some .number
  | .password => some .password
  | _ => none

/-- The sessions that a page opens. -/
inductive PageBody.Opens (body : PageBody) : Session → Prop where
  | editor {session} (calls : body.editor = some session) : Opens body session
  | current {page own} (same : body = .current page own) : Opens body (.current page)

def Idle (statics : Statics) : Prop := ∀ session, statics.raised session = false

/-- The statics belong to a page: no session of another page is open, and the argument of
a current page is its own. -/
structure Owns (body : PageBody) (statics : Statics) : Prop where
  raised : ∀ session, statics.raised session = true → body.Opens session
  filled : ∀ page own, body = .current page own → statics.flagCurrent page = true →
    statics.setIntFloat = own

/-- The numbers of a page are of types that the editor knows. -/
def PageBody.Sound : PageBody → Prop
  | .number args => ∀ global, (args global).Printed
  | .current _ own => own.Printed
  | _ => True

theorem pageBody_sound (func : PageFunc) : (pageBody func).Sound := by
  cases func <;> first | trivial | exact ⟨_, _, rfl⟩ | exact fun _ => ⟨_, _, rfl⟩

section Pages

variable {statics : Statics}

theorem Idle.owns (idle : Idle statics) (body : PageBody) : Owns body statics where
  raised := by
    intro session raised
    cases (idle session).symm.trans raised
  filled := by
    intro page own _ raised
    cases (idle (.current page)).symm.trans raised

/-- The editor of a page has changed no first-call flag but its own. -/
theorem Owns.edited {body : PageBody} {editor : Session} {after : Statics}
    (owns : Owns body statics) (calls : body.editor = some editor)
    (others : ∀ session, session ≠ editor → after.raised session = statics.raised session)
    (filled : ∀ page own, body = .current page own → after.flagCurrent page = true →
      after.setIntFloat = own) : Owns body after where
  raised := by
    intro session raised
    by_cases own : session = editor
    · rw [own]
      exact .editor calls
    · rw [others session own] at raised
      exact owns.raised session raised
  filled := filled

/-- A page is done with the statics when its sessions have ended. -/
theorem Owns.closed {body : PageBody} {editor : Session} (owns : Owns body statics)
    (calls : body.editor = some editor) (ended : statics.raised editor = false)
    (current : ∀ page own, body = .current page own → statics.flagCurrent page = false) :
    Idle statics := by
  intro session
  cases raised : statics.raised session with
  | false => rfl
  | true =>
      cases owns.raised session raised with
      | editor again =>
          cases calls.symm.trans again
          exact raised.symm.trans ended
      | current same => exact raised.symm.trans (current _ _ same)

theorem raised_current {after : Statics} (flag4mA : after.flag4mA = statics.flag4mA)
    (flag20mA : after.flag20mA = statics.flag20mA) (page : CurrentPage) :
    after.raised (.current page) = statics.raised (.current page) := by
  cases page with
  | mA4 => exact flag4mA
  | mA20 => exact flag20mA

theorem SelectFrame.raised {after : Statics} (frame : SelectFrame statics after)
    (session : Session) (other : session ≠ .select) :
    after.raised session = statics.raised session := by
  cases session with
  | select => exact absurd rfl other
  | number => exact congrArg NumberStatics.flag1st frame.number
  | password => exact congrArg PasswordStatics.flag frame.password
  | current page => exact raised_current frame.flag4mA frame.flag20mA page

theorem NumberFrame.raised {after : Statics} (frame : NumberFrame statics after)
    (session : Session) (other : session ≠ .number) :
    after.raised session = statics.raised session := by
  cases session with
  | select => exact congrArg SelectStatics.flag1st frame.select
  | number => exact absurd rfl other
  | password => exact congrArg PasswordStatics.flag frame.password
  | current page => exact raised_current frame.flag4mA frame.flag20mA page

theorem PasswordFrame.raised {after : Statics} (frame : PasswordFrame statics after)
    (session : Session) (other : session ≠ .password) :
    after.raised session = statics.raised session := by
  cases session with
  | select => exact congrArg SelectStatics.flag1st frame.select
  | number => exact congrArg NumberStatics.flag1st frame.number
  | password => exact absurd rfl other
  | current page => exact raised_current frame.flag4mA frame.flag20mA page

theorem withSetIntFloat_raised (args : SetIntFloat) (session : Session) :
    Statics.raised { statics with setIntFloat := args } session = statics.raised session := by
  cases session with
  | current page => cases page <;> rfl
  | _ => rfl

theorem leave_nonempty {exits : Bool} (called : leave exits ≠ []) : exits = true := by
  cases exits with
  | false => exact absurd rfl called
  | true => rfl

/-- The statics a page hands on: its own, or free if it has called the frame. -/
structure HandsOn (body : PageBody) (result : PageResult) : Prop where
  owns : Owns body result.statics
  idle : result.calls ≠ [] → Idle result.statics

theorem selectPage_handsOn (args : GlobalDef → SelectArgs) (pass : MenuPass)
    (owns : Owns (.select args) statics) :
    HandsOn (.select args) (selectPage (args pass.global) pass statics) := by
  have frame := setSelect_frame pass.key (args pass.global) pass.stray statics
  have kept := owns.edited rfl frame.raised nofun
  exact ⟨kept, fun called => kept.closed rfl (setSelect_closes (leave_nonempty called)) nofun⟩

theorem numberPage_handsOn (args : GlobalDef → SetIntFloat) (pass : MenuPass)
    (sound : (args pass.global).Printed) (owns : Owns (.number args) statics) :
    HandsOn (.number args) (numberPage (args pass.global) pass statics) := by
  have frame := setIntFloatMinMax_frame pass.key (args pass.global) pass.uninitReal
    { statics with setIntFloat := args pass.global }
  have passed : Owns (.number args) { statics with setIntFloat := args pass.global } := by
    refine ⟨?_, nofun⟩
    intro session raised
    rw [withSetIntFloat_raised] at raised
    exact owns.raised session raised
  have kept := passed.edited rfl frame.raised nofun
  exact ⟨kept, fun called =>
    kept.closed rfl (setIntFloatMinMax_closes sound (leave_nonempty called)) nofun⟩

theorem getPassword_owns (msg : KeyCode) (owns : Owns .password statics) :
    Owns .password (getPassword msg statics).1 :=
  owns.edited rfl (getPassword_frame msg statics).raised nofun

theorem getPassword_idle {msg : KeyCode} {passWord : List U8} (owns : Owns .password statics)
    (entered : (getPassword msg statics).2 = some passWord) :
    Idle (getPassword msg statics).1 :=
  (getPassword_owns msg owns).closed rfl (getPassword_closes entered) nofun

theorem passProc_handsOn (pass : MenuPass) (owns : Owns .password statics) :
    HandsOn .password (passProc pass statics) := by
  have kept := getPassword_owns pass.key owns
  cases entered : (getPassword pass.key statics).2 with
  | none =>
      rw [passProc_editing entered]
      exact ⟨kept, fun called => absurd rfl called⟩
  | some passWord =>
      have idle := getPassword_idle owns entered
      rw [passProc_entered entered]
      split
      · exact ⟨kept, fun _ => idle⟩
      · exact ⟨kept, fun _ => idle⟩

theorem flagCurrent_withFlagCurrent (page : CurrentPage) (value : Bool) :
    (statics.withFlagCurrent value page).flagCurrent page = value := by
  cases page with
  | mA4 => rfl
  | mA20 => rfl

theorem withFlagCurrent_raised {page : CurrentPage} (value : Bool) (session : Session)
    (other : session ≠ .current page) :
    (statics.withFlagCurrent value page).raised session = statics.raised session := by
  cases session with
  | current raised =>
      cases page with
      | mA4 =>
          cases raised with
          | mA4 => exact absurd rfl other
          | mA20 => rfl
      | mA20 =>
          cases raised with
          | mA4 => rfl
          | mA20 => exact absurd rfl other
  | _ => cases page <;> rfl

theorem openCurrent_raised (page : CurrentPage) (own : SetIntFloat) (session : Session)
    (other : session ≠ .current page) :
    (openCurrent page own statics).raised session = statics.raised session := by
  rw [openCurrent]
  split
  · rfl
  · rw [withSetIntFloat_raised]
    exact withFlagCurrent_raised true session other

theorem openCurrent_setIntFloat {page : CurrentPage} {own : SetIntFloat}
    (owns : Owns (.current page own) statics) :
    (openCurrent page own statics).setIntFloat = own := by
  rw [openCurrent]
  split
  case isTrue raised => exact owns.filled page own rfl raised
  case isFalse => rfl

/-- A current page may change its flag as long as its argument is filled with it. -/
theorem Owns.flagged {page : CurrentPage} {own : SetIntFloat} {after : Statics}
    (owns : Owns (.current page own) statics)
    (others : ∀ session, session ≠ .current page → after.raised session = statics.raised session)
    (filled : after.flagCurrent page = true → after.setIntFloat = own) :
    Owns (.current page own) after where
  raised := by
    intro session raised
    by_cases here : session = .current page
    · rw [here]
      exact .current rfl
    · rw [others session here] at raised
      exact owns.raised session raised
  filled := by
    intro other args same raised
    cases same
    exact filled raised

theorem openCurrent_number (page : CurrentPage) (own : SetIntFloat) :
    (openCurrent page own statics).number = statics.number := by
  rw [openCurrent]
  split
  · rfl
  · cases page with
    | mA4 => rfl
    | mA20 => rfl

theorem currentPage_handsOn {page : CurrentPage} {own : SetIntFloat} (pass : MenuPass)
    (sound : own.Printed) (owns : Owns (.current page own) statics) :
    HandsOn (.current page own) (currentPage page own pass statics) := by
  have filled := openCurrent_setIntFloat owns
  have opened : Owns (.current page own) (openCurrent page own statics) :=
    owns.flagged (openCurrent_raised page own) fun _ => filled
  have frame := setIntFloatMinMax_frame pass.key (openCurrent page own statics).setIntFloat
    pass.uninitReal (openCurrent page own statics)
  have kept := opened.edited rfl frame.raised fun other args same _ =>
    frame.setIntFloat.trans (filled.trans (by cases same; rfl))
  rw [currentPage]
  split
  case h_1 edited exits =>
    have ended : (setIntFloatMinMax pass.key (openCurrent page own statics).setIntFloat
        pass.uninitReal (openCurrent page own statics)).1.number.flag1st = false :=
      setIntFloatMinMax_closes (filled.symm ▸ sound) (by rw [exits]; rfl)
    rw [exits] at kept ended
    have left : Owns (.current page own) (edited.withFlagCurrent false page) := by
      refine kept.flagged (withFlagCurrent_raised false) ?_
      intro raised
      rw [flagCurrent_withFlagCurrent] at raised
      cases raised
    refine ⟨left, fun _ => left.closed rfl ?_ ?_⟩
    · rw [withFlagCurrent_raised false .number (by intro same; cases same)]
      exact ended
    · intro other args same
      cases same
      exact flagCurrent_withFlagCurrent page false
  case h_2 edited setStat notExit result =>
    rw [result] at kept
    exact ⟨kept, fun called => absurd rfl called⟩

theorem Owns.idle {body : PageBody} (owns : Owns body statics)
    (none_called : body.editor = none) : Idle statics := by
  intro session
  cases raised : statics.raised session with
  | false => rfl
  | true =>
      cases owns.raised session raised with
      | editor calls => cases none_called.symm.trans calls
      | current same =>
          rw [same] at none_called
          cases none_called

/-- A page without an editor finds the statics free and leaves them so. -/
theorem Owns.without_editor {body : PageBody} {result : PageResult} (owns : Owns body statics)
    (none_called : body.editor = none)
    (kept : ∀ session, result.statics.raised session = statics.raised session) :
    HandsOn body result := by
  have idle : Idle result.statics := fun session =>
    (kept session).trans (owns.idle none_called session)
  exact ⟨idle.owns body, fun _ => idle⟩

theorem menuResetFactory_raised (pass : MenuPass) (session : Session) :
    (menuResetFactory pass statics).statics.raised session = statics.raised session := by
  have flagged (flagReset : Bool) :
      Statics.raised { statics with flagReset := flagReset } session =
        statics.raised session := by
    cases session with
    | current page => cases page <;> rfl
    | _ => rfl
  rw [menuResetFactory]
  split
  · exact flagged _
  · exact flagged _
  · exact flagged _
  · rfl
  · rfl

theorem menuMainDisp_statics (pass : MenuPass) : (menuMainDisp pass statics).statics = statics := by
  rcases menuMainDisp_cases pass statics with result | result | result
  · rw [result]
  · rw [result]
  · rw [result]

theorem runPage_handsOn {body : PageBody} (pass : MenuPass) (sound : body.Sound)
    (owns : Owns body statics) : HandsOn body (runPage pass statics body) := by
  cases body with
  | root =>
      refine owns.without_editor rfl ?_
      intro session
      exact congrArg (fun after => Statics.raised after session) (menuMainDisp_statics pass)
  | password => exact passProc_handsOn pass owns
  | display => exact owns.without_editor rfl fun _ => rfl
  | boxes => exact owns.without_editor rfl fun _ => rfl
  | resetFactory => exact owns.without_editor rfl (menuResetFactory_raised pass)
  | select args => exact selectPage_handsOn args pass owns
  | number args => exact numberPage_handsOn args pass (sound pass.global) owns
  | current page own => exact currentPage_handsOn pass sound owns

end Pages

/-- The page that is called owns the statics; they are free while a list is shown. -/
structure Owned (state : MenuState) : Prop where
  page : ∀ func, state.active = some func → Owns (pageBody func) state.statics
  list : state.active = none → Idle state.statics

section Steps

variable {state next : MenuState} {pass : MenuPass}

theorem Idle.owned (idle : Idle state.statics) : Owned state :=
  ⟨fun func _ => idle.owns (pageBody func), fun _ => idle⟩

theorem cleared_idle : Idle Statics.cleared := by
  intro session
  cases session with
  | current page => cases page <;> rfl
  | _ => rfl

theorem active_of_list (listing : state.frame.menuStatus = .node) : state.active = none := by
  rw [MenuState.active, listing]

/-- The page that was called is called again, with the statics it has left. -/
structure CalledAgain (state : MenuState) (pass : MenuPass) (next : MenuState) (func : PageFunc) :
    Prop where
  called : state.active = some func
  again : next.active = some func
  statics : next.statics = (runPage pass state.statics (pageBody func)).statics

/-- A pass frees the statics, or the page that was called is called again. -/
theorem Turn.owned (turn : Turn state pass next) (owned : Owned state) :
    Owned next ∧ (Idle next.statics ∨ ∃ func, CalledAgain state pass next func) := by
  have freed (idle : Idle next.statics) :
      Owned next ∧ (Idle next.statics ∨ ∃ func, CalledAgain state pass next func) :=
    ⟨idle.owned, .inl idle⟩
  have handsOn {func : PageFunc} (called : state.active = some func) :
      HandsOn (pageBody func) (runPage pass state.statics (pageBody func)) :=
    runPage_handsOn pass (pageBody_sound func) (owned.page func called)
  cases turn with
  | list listing statics stepped =>
      apply freed
      rw [statics]
      exact owned.list (active_of_list listing)
  | stays func called next_eq calls =>
      have again : next.active = some func := by
        rw [next_eq]
        exact called
      refine ⟨⟨?_, ?_⟩, .inr ⟨func, called, again, congrArg MenuState.statics next_eq⟩⟩
      · intro other otherCalled
        cases again.symm.trans otherCalled
        rw [next_eq]
        exact (handsOn called).owns
      · intro none_called
        cases again.symm.trans none_called
  | leaves func called notRoot next_eq calls =>
      apply freed
      rw [next_eq]
      exact (handsOn called).idle (by rw [calls]; nofun)
  | opens called root statics listing enters =>
      apply freed
      rw [statics]
      exact (owned.page _ called).idle rfl
  | asks called root next_eq =>
      apply freed
      rw [next_eq]
      exact (owned.page _ called).idle rfl
  | accepts called root passWord session equal statics listing enters =>
      apply freed
      rw [statics]
      exact getPassword_idle (owned.page _ called) session
  | refuses called root passWord session different next_eq =>
      apply freed
      rw [next_eq]
      exact getPassword_idle (owned.page _ called) session
  | resets next_eq =>
      apply freed
      rw [next_eq]
      exact cleared_idle

theorem menuRun_owned {passes : List MenuPass} {state : MenuState}
    (ran : Run.run menuStep menuInit passes = some state) : Running state ∧ Owned state := by
  have kept : ∀ before pass after, Running before ∧ Owned before →
      menuStep before pass = some after → Running after ∧ Owned after := by
    intro before pass after held stepped
    obtain ⟨running, turn⟩ := held.1.step stepped
    exact ⟨running, (turn.owned held.2).1⟩
  exact Run.invariant_of_run kept ⟨menuInit_running, Idle.owned cleared_idle⟩ ran

end Steps

/-- The function is called after these passes, and it was not called in the last of them. -/
structure FirstCall (passes : List MenuPass) (state : MenuState) (func : PageFunc) : Prop where
  ran : Run.run menuStep menuInit passes = some state
  called : state.active = some func
  became : ∀ before pass previous, passes = before ++ [pass] →
    Run.run menuStep menuInit before = some previous → previous.active ≠ some func

theorem FirstCall.idle {passes : List MenuPass} {state : MenuState} {func : PageFunc}
    (first : FirstCall passes state func) : Idle state.statics := by
  rcases List.eq_nil_or_concat passes with empty | ⟨before, pass, last⟩
  · have ran := first.ran
    rw [empty] at ran
    cases Option.some.inj ran
    exact cleared_idle
  · have ran := first.ran
    rw [List.concat_eq_append] at last
    rw [last] at ran
    obtain ⟨previous, began, stepped⟩ := Run.run_concat_some ran
    obtain ⟨running, owned⟩ := menuRun_owned began
    obtain ⟨_, turn⟩ := running.step stepped
    obtain ⟨_, idle | ⟨page, again⟩⟩ := turn.owned owned
    · exact idle
    · have other := first.became before pass previous last began
      exact absurd (again.called.trans (again.again.symm.trans first.called)) other

/-- The statics behind the block under the first-call flag. -/
def openSession (pass : MenuPass) (statics : Statics) : PageBody → Statics
  | .select args => openSelect (args pass.global) pass.stray statics
  | .number args =>
      (openNumber (args pass.global) { statics with setIntFloat := args pass.global }).1
  | .current page own =>
      let opened := openCurrent page own statics
      (openNumber opened.setIntFloat opened).1
  | .password => openPassword statics
  | _ => statics

/-- The text that a number is shown as. -/
def SetIntFloat.text (args : SetIntFloat) : List U8 :=
  match args.dataType.print args.setData with
  | some (size, text) => cString size (charBytes text)
  | none => []

structure FreshSelect (args : SelectArgs) (stray : List U8) (before opened : Statics) : Prop where
  flag1st : before.select.flag1st = false
  flag : opened.select.flag = false
  eeVal : opened.select.eeVal = args.currIndex % 256
  text : setText opened.sSetBuf = cString 25 (args.array.getD (args.currIndex % 256) stray)

structure FreshNumber (args : SetIntFloat) (before opened : Statics) : Prop where
  flag1st : before.number.flag1st = false
  state : opened.number.state = false
  flagDotDisp : opened.number.flagDotDisp = decide (args.dataType = .float32)
  sCur : opened.sCur = 0
  setIntFloat : opened.setIntFloat = args
  text : setText opened.sSetBuf = args.text

structure FreshPassword (before opened : Statics) : Prop where
  flag : before.password.flag = false
  sCur : opened.sCur = 0
  text : setText opened.sSetBuf = charBytes ['0', '0', '0', '0', '0', '0']

/-- The editor that the page calls starts from the arguments of the page. -/
def FreshSession (pass : MenuPass) (statics : Statics) (body : PageBody) : Prop :=
  match body with
  | .select args =>
      FreshSelect (args pass.global) pass.stray statics (openSession pass statics body)
  | .number args => FreshNumber (args pass.global) statics (openSession pass statics body)
  | .current page own =>
      statics.flagCurrent page = false ∧ FreshNumber own statics (openSession pass statics body)
  | .password => FreshPassword statics (openSession pass statics body)
  | _ => True

section Sessions

variable {statics : Statics}

theorem print_fits {args : SetIntFloat} {size : Nat} {text : List Char}
    (isText : args.dataType.print args.setData = some (size, text)) : 0 < size ∧ size ≤ 25 := by
  cases type : args.dataType with
  | int8 => rw [type] at isText; cases isText; decide
  | int16 => rw [type] at isText; cases isText; decide
  | int32 => rw [type] at isText; cases isText; decide
  | float32 => rw [type] at isText; cases isText; decide
  | int64 => rw [type] at isText; cases isText
  | float64 => rw [type] at isText; cases isText

theorem openNumber_fresh {args : SetIntFloat} {before : Statics} (printed : args.Printed)
    (clear : before.number.flag1st = false) (kept : statics.number = before.number)
    (filled : statics.setIntFloat = args) :
    FreshNumber args before (openNumber args statics).1 := by
  obtain ⟨size, text, isText⟩ := printed
  simp only [openNumber, kept, clear, isText, Bool.false_eq_true, if_false]
  refine ⟨clear, rfl, rfl, rfl, filled, ?_⟩
  rw [SetIntFloat.text, isText]
  exact setText_printTo (charBytes text) statics.sSetBuf (print_fits isText)

theorem openSelect_fresh (args : SelectArgs) (stray : List U8)
    (clear : statics.select.flag1st = false) :
    FreshSelect args stray statics (openSelect args stray statics) := by
  simp only [openSelect, beginSelect, showSelect, clear, Bool.false_eq_true, if_false]
  exact ⟨clear, rfl, rfl, setText_printTo _ _ (by decide)⟩

theorem openPassword_fresh (clear : statics.password.flag = false) :
    FreshPassword statics (openPassword statics) := by
  simp only [openPassword, clear, Bool.false_eq_true, if_false]
  exact ⟨clear, rfl, setText_printTo _ _ (by decide)⟩

theorem Idle.fresh (idle : Idle statics) (pass : MenuPass) (func : PageFunc) :
    FreshSession pass statics (pageBody func) := by
  have sound := pageBody_sound func
  cases body : pageBody func with
  | select args => exact openSelect_fresh _ _ (idle .select)
  | number args =>
      rw [body] at sound
      exact openNumber_fresh (sound pass.global) (idle .number) rfl rfl
  | current page own =>
      rw [body] at sound
      have filled := openCurrent_setIntFloat (idle.owns (.current page own))
      refine ⟨idle (.current page), ?_⟩
      rw [openSession, filled]
      exact openNumber_fresh sound (idle .number) (openCurrent_number page own) filled
  | password => exact openPassword_fresh (idle .password)
  | root => trivial
  | display => trivial
  | boxes => trivial
  | resetFactory => trivial

end Sessions

theorem firstCall_of_list {passes : List MenuPass} {func : PageFunc}
    (called : (Run.run menuStep menuInit passes).map MenuState.active = some (some func))
    (listed : (Run.run menuStep menuInit passes.dropLast).map MenuState.active = some none) :
    ∃ state, FirstCall passes state func := by
  obtain ⟨state, ran, active⟩ := Option.map_eq_some_iff.mp called
  refine ⟨state, ran, active, ?_⟩
  intro before pass previous split began again
  rw [split, List.dropLast_concat, began, Option.map_some, again] at listed
  cases listed

theorem sessions_start_fresh (passes : List MenuPass) (state : MenuState) (func : PageFunc)
    (first : FirstCall passes state func) (pass : MenuPass) :
    FreshSession pass state.statics (pageBody func) :=
  first.idle.fresh pass func

def pressed (key : KeyCode) : MenuPass := ⟨key, GlobalDef.cleared, [], .nan, 0, false⟩

/-- The keys from the page of the root to the page of node 0.5.0. -/
def idPasses : List MenuPass :=
  [.downOk, .downDown, .downDown, .downDown, .downDown, .downDown, .downOk, .downOk].map pressed

theorem idPasses_firstCall : ∃ state, FirstCall idPasses state .menuRs485Id :=
  firstCall_of_list (by decide +kernel) (by decide +kernel)

/-- A password session that is refused. -/
def refusedPasses : List MenuPass := [.downMenuAndOk, .downMenu].map pressed

/-- Digits are typed on the page and given up, the page of the baud rate next to it is turned to
another choice and given up, and the page is entered again. -/
def revisitPasses : List MenuPass :=
  idPasses ++ [.downUp, .downOk, .downUp, .downMenu, .downOk].map pressed ++
    [.downDown, .downOk, .none, .downDown, .downMenu, .downOk].map pressed ++
    [.downUp, .downOk].map pressed

theorem sessions_start_fresh_revisitPasses :
    ∃ state, FirstCall (refusedPasses ++ revisitPasses) state .menuRs485Id ∧
      FreshNumber ⟨.int8, .integer 0, 1, 247⟩ state.statics
        (openSession (pressed .none) state.statics menuRs485Id) := by
  obtain ⟨state, first⟩ :
      ∃ state, FirstCall (refusedPasses ++ revisitPasses) state .menuRs485Id :=
    firstCall_of_list (by decide +kernel) (by decide +kernel)
  exact ⟨state, first,
    sessions_start_fresh (refusedPasses ++ revisitPasses) state .menuRs485Id first (pressed .none)⟩

/-- The bytes of the buffer depend on the pages before: behind `000` and its terminator
stand the last two digits of a password session. -/
theorem buffer_keeps_password :
    ¬ ∀ func pass passes others state other, FirstCall passes state func →
      FirstCall others other func →
        (openSession pass state.statics (pageBody func)).sSetBuf.load 0 25 =
          (openSession pass other.statics (pageBody func)).sSetBuf.load 0 25 := by
  intro independent
  obtain ⟨state, first⟩ := idPasses_firstCall
  obtain ⟨other, second⟩ : ∃ state, FirstCall (refusedPasses ++ idPasses) state .menuRs485Id :=
    firstCall_of_list (by decide +kernel) (by decide +kernel)
  have same := independent _ (pressed .none) _ _ _ _ first second
  have buffers : (Run.run menuStep menuInit idPasses).map (fun state =>
      (openSession (pressed .none) state.statics (pageBody .menuRs485Id)).sSetBuf.load 0 25) ≠
      (Run.run menuStep menuInit (refusedPasses ++ idPasses)).map fun state =>
        (openSession (pressed .none) state.statics (pageBody .menuRs485Id)).sSetBuf.load 0 25 := by
    decide +kernel
  rw [first.ran, second.ran, Option.map_some, Option.map_some, same] at buffers
  exact absurd rfl buffers

end ZhuoduControl.Menu.Edit
