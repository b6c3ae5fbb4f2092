import ZhuoduControl.Menu.NumberBox
import ZhuoduControl.Menu.NumberText

/-! The text and the cursor of a number box while it is edited. -/

set_option autoImplicit false

namespace ZhuoduControl.Menu.Box

open ZhuoduControl.Library
open ZhuoduControl.Library.DecimalText
open ZhuoduControl.Data
open ZhuoduControl.Drivers
open ZhuoduControl.Menu.Frame
open ZhuoduControl.Menu.Edit

/-- The number of the box is printed with a `-`. An edit leaves it as it is until it is saved. -/
def NumberBox.negative (box : NumberBox) : Bool :=
  match box.dataType with
  | .integer => decide (box.setInteger.toInt < 0)
  | .float =>
      match Binary32.decode box.setFloat with
      | .finite negative _ => negative
      | .infinite negative => negative
      | .nan => false

/-- The cursor is on the text, which fills the box with digits, points of a `float` and the
`-` of the number that is edited. -/
structure BoxText (box : NumberBox) : Prop where
  cursor : box.setIndex < box.text.length
  length : box.text.length = box.boxWidth
  alphabet : Signed box.negative (decide (box.dataType = .float)) box.text

def KeepsText (_ : BoxSession) (_ : BoxEvent) (after : BoxSession) : Prop :=
  after.box.editing = true → BoxText after.box

/-- The cursor runs over more places than the box has. -/
def StepsOff (session : BoxSession) (event : BoxEvent) : Prop :=
  ∃ uninit, event = .call .downOk uninit ∧ session.box.boxStat = .modifing ∧
    session.box.setIndex + 1 = session.box.boxWidth ∧
    session.box.boxWidth < session.box.dataWidth

/-- The `-` is not on the wheel: behind it comes the point, before it a character of no
number. -/
def TurnsSign (session : BoxSession) (event : BoxEvent) : Prop :=
  ∃ msg uninit, event = .call msg uninit ∧ session.box.boxStat = .modifing ∧
    session.box.setBuf session.box.setIndex = 0x2D ∧
    (msg = .downDown ∨ (msg = .downUp ∧ session.box.dataType = .integer))

def NumberBox.number (box : NumberBox) : Number :=
  match box.dataType with
  | .integer => .finite box.setInteger.toInt
  | .float => (SetData.float box.setFloat).number

/-- The number of the box is strictly between its bounds. -/
def NumberBox.Between (box : NumberBox) : Prop :=
  ∃ value, box.number = .finite value ∧ box.min < value ∧ value < box.max

theorem pageBoxes_widths : ∀ config ∈ pageBoxes,
    0 < config.boxWidth ∧ config.boxWidth ≤ 8 ∧ config.boxWidth ≤ config.dataWidth ∧
      config.dataWidth ≤ config.boxWidth + 1 := by
  decide +kernel

theorem pageBoxes_bounds : ∀ config ∈ pageBoxes, -100 ≤ config.min ∧ config.max ≤ 65535 := by
  decide +kernel

section Wheel

variable {first : Bool} {dataType : BoxType} {byte : U8}

theorem wheelUp_iff (wheel : onWheel first (decide (dataType = .float)) byte = true) :
    onWheel first (decide (dataType = .float)) (wheelUp dataType byte) = true ↔
      ¬ (byte = 0x2D ∧ dataType = .integer) := by
  cases first <;> cases dataType <;> revert byte <;> decide +kernel

theorem wheelDown_iff (wheel : onWheel first (decide (dataType = .float)) byte = true) :
    onWheel first (decide (dataType = .float)) (wheelDown dataType byte) = true ↔
      byte ≠ 0x2D := by
  cases first <;> cases dataType <;> revert byte <;> decide +kernel

end Wheel

section Texts

variable {box : NumberBox}

theorem BoxText.under (good : BoxText box) :
    onWheel (decide (box.setIndex = 0) && box.negative) (decide (box.dataType = .float))
      (box.setBuf box.setIndex) = true := by
  refine good.alphabet box.setIndex _ ?_
  rw [List.getElem?_eq_getElem good.cursor]
  exact congrArg some (load_getElem_takeWhile good.cursor)

/-- A character is changed well exactly when it stays on the wheel. -/
theorem BoxText.wheel_iff (good : BoxText box) (change : U8 → U8) :
    BoxText (box.wheel change) ↔
      onWheel (decide (box.setIndex = 0) && box.negative) (decide (box.dataType = .float))
        (change (box.setBuf box.setIndex)) = true := by
  have changed : (box.wheel change).setBuf box.setIndex = change (box.setBuf box.setIndex) :=
    Memory.set_same _ _ _
  constructor
  · intro after
    rw [← changed]
    exact after.under
  · intro wheel
    have text : (box.wheel change).text =
        box.text.set box.setIndex (change (box.setBuf box.setIndex)) :=
      load_set (onWheel_ne_zero wheel) good.cursor
    refine ⟨?_, ?_, ?_⟩
    · rw [text, List.length_set]
      exact good.cursor
    · rw [text, List.length_set]
      exact good.length
    · rw [text]
      exact good.alphabet.set wheel

theorem editText_signed (finite : box.dataType = .float →
    ∃ negative magnitude, Binary32.decode box.setFloat = .finite negative magnitude) :
    Signed box.negative (decide (box.dataType = .float)) (charBytes box.editText) := by
  unfold NumberBox.negative NumberBox.editText
  cases type : box.dataType with
  | integer => exact formatInt_signed _ _
  | float =>
      obtain ⟨negative, magnitude, decoded⟩ := finite type
      simp only [formatFloat, decoded]
      exact formatFixed_signed 6 _ negative magnitude (2 ^ 149)

theorem editText_length (wide : box.boxWidth ≤ box.dataWidth) (short : box.boxWidth ≤ 8)
    (finite : box.dataType = .float →
      ∃ negative magnitude, Binary32.decode box.setFloat = .finite negative magnitude) :
    box.boxWidth ≤ box.editText.length := by
  unfold NumberBox.editText
  cases type : box.dataType with
  | integer =>
      dsimp only
      rw [formatInt, zeroPadded_length]
      omega
  | float =>
      obtain ⟨negative, magnitude, decoded⟩ := finite type
      simp only [formatFloat, decoded]
      exact Nat.le_trans short (formatFixed_length 6 _ negative magnitude (2 ^ 149))

theorem opened_text (widths : 0 < box.boxWidth ∧ box.boxWidth ≤ 8 ∧ box.boxWidth ≤ box.dataWidth)
    (finite : box.dataType = .float →
      ∃ negative magnitude, Binary32.decode box.setFloat = .finite negative magnitude) :
    BoxText { box.display.print box.editText with boxStat := .modifing } := by
  obtain ⟨positive, short, wide⟩ := widths
  have signed := editText_signed finite
  have text : NumberBox.text { box.display.print box.editText with boxStat := .modifing } =
      (charBytes box.editText).take box.boxWidth := by
    refine Eq.trans (load_printTo _ _ ?_) (signed.onWheel.cString _)
    have inside : box.boxWidth + 1 ≤ 17 := by omega
    exact ⟨Nat.succ_pos _, inside⟩
  have length : ((charBytes box.editText).take box.boxWidth).length = box.boxWidth := by
    rw [List.length_take, charBytes, List.length_map]
    exact Nat.min_eq_left (editText_length wide short finite)
  refine ⟨?_, ?_, ?_⟩
  · rw [text, length]
    exact positive
  · rw [text, length]
    rfl
  · rw [text]
    exact signed.take _

theorem BoxText.moves_iff (good : BoxText box) (short : box.boxWidth ≤ 8)
    (wide : box.boxWidth ≤ box.dataWidth ∧ box.dataWidth ≤ box.boxWidth + 1) :
    BoxText box.moveCursor ↔
      ¬ (box.setIndex + 1 = box.boxWidth ∧ box.boxWidth < box.dataWidth) := by
  have cursor := good.cursor
  have length := good.length
  rw [length] at cursor
  have small : (box.setIndex + 1) % 256 = box.setIndex + 1 := Nat.mod_eq_of_lt (by omega)
  have moved : box.moveCursor.setIndex =
      if box.setIndex + 1 = box.dataWidth then 0 else box.setIndex + 1 := by
    rw [NumberBox.moveCursor, small]
  constructor
  · rintro ⟨after, _, _⟩ ⟨last, wider⟩
    have inside : box.moveCursor.setIndex < box.text.length := after
    rw [moved, if_neg (by omega), length] at inside
    omega
  · intro stays
    refine ⟨?_, length, good.alphabet⟩
    show box.moveCursor.setIndex < box.text.length
    rw [moved, length]
    split
    · omega
    · omega

end Texts

/-- What holds of a box between two events. -/
structure TextSession (session : BoxSession) : Prop where
  config : session.box.toBoxConfig ∈ pageBoxes
  finite : session.box.dataType = .float →
    ∃ negative magnitude, Binary32.decode session.box.setFloat = .finite negative magnitude
  text : session.box.editing = true → BoxText session.box

section Steps

variable {clib : Clib} {font : Font} {session : BoxSession}

/-- The pattern of a number between the bounds of a page is finite. -/
theorem between_finite {value : Rat} (lower : -100 < value) (upper : value < 65535) :
    ∃ negative magnitude, Binary32.decode (Binary32.ofRat value) = .finite negative magnitude := by
  refine Binary32.ofRat_finite ?_
  rw [Rat.lt_iff] at lower upper
  have above : -100 * (value.den : Int) < value.num := by simpa using lower
  have below : value.num < 65535 * (value.den : Int) := by simpa using upper
  have positive := value.den_pos
  omega

theorem Edited.finite {uninit : Number} {box after : NumberBox} {msg : KeyCode}
    (edited : Edited clib uninit box msg after) (config : box.toBoxConfig ∈ pageBoxes)
    (finite : box.dataType = .float →
      ∃ negative magnitude, Binary32.decode box.setFloat = .finite negative magnitude)
    (type : box.dataType = .float) :
    ∃ negative magnitude, Binary32.decode after.setFloat = .finite negative magnitude := by
  cases edited with
  | saves =>
      obtain ⟨lower, upper⟩ := pageBoxes_bounds _ config
      rcases box.save_cases clib uninit with same | ⟨value, _, above, below, ⟨other, _⟩ | ⟨_, same⟩⟩
      · rw [same]
        exact finite type
      · cases type.symm.trans other
      · rw [same]
        exact between_finite (lt_of_le_of_lt lower above) (lt_of_lt_of_le below upper)
  | _ => exact finite type

theorem Edited.text_iff {uninit : Number} {box after : NumberBox} {msg : KeyCode}
    (edited : Edited clib uninit box msg after) (config : box.toBoxConfig ∈ pageBoxes)
    (finite : box.dataType = .float →
      ∃ negative magnitude, Binary32.decode box.setFloat = .finite negative magnitude)
    (text : box.editing = true → BoxText box) :
    (after.editing = true → BoxText after) ↔
      ¬ (box.boxStat = .modifing ∧
        ((msg = .downOk ∧ box.setIndex + 1 = box.boxWidth ∧ box.boxWidth < box.dataWidth) ∨
          (box.setBuf box.setIndex = 0x2D ∧
            (msg = .downDown ∨ (msg = .downUp ∧ box.dataType = .integer))))) := by
  obtain ⟨positive, short, wide⟩ := pageBoxes_widths _ config
  have changing (stat : box.boxStat = .modifing) : BoxText box :=
    text (by rw [NumberBox.editing, stat]; rfl)
  cases edited with
  | unfocused stat =>
      refine iff_of_true (fun editing => ?_) fun turned => ?_
      · rw [NumberBox.editing, show box.display.boxStat = .unfocused from stat] at editing
        cases editing
      · cases stat.symm.trans turned.1
  | focused stat closed =>
      refine iff_of_true (fun editing => ?_) fun turned => ?_
      · rw [NumberBox.editing, show box.display.boxStat = .focused from stat] at editing
        cases editing
      · cases stat.symm.trans turned.1
  | opens stat writable =>
      refine iff_of_true (fun _ => opened_text ⟨positive, short, wide.1⟩ finite) fun turned => ?_
      cases stat.symm.trans turned.1
  | up stat =>
      have good := changing stat
      have editing : (box.wheel (wheelUp box.dataType)).editing = true := by
        rw [NumberBox.editing, show (box.wheel _).boxStat = .modifing from stat]
        rfl
      rw [forall_prop_of_true editing, good.wheel_iff, wheelUp_iff good.under]
      simp [stat]
  | down stat =>
      have good := changing stat
      have editing : (box.wheel (wheelDown box.dataType)).editing = true := by
        rw [NumberBox.editing, show (box.wheel _).boxStat = .modifing from stat]
        rfl
      rw [forall_prop_of_true editing, good.wheel_iff, wheelDown_iff good.under]
      simp [stat]
  | asks stat =>
      have good := changing stat
      refine iff_of_true (fun _ => ⟨good.cursor, good.length, good.alphabet⟩) ?_
      simp
  | moves stat =>
      have good := changing stat
      have editing : box.moveCursor.editing = true := by
        rw [NumberBox.editing, show box.moveCursor.boxStat = .modifing from stat]
        rfl
      rw [forall_prop_of_true editing, good.moves_iff short wide]
      simp [stat]
  | idles stat other =>
      refine iff_of_true (fun _ => changing stat) ?_
      simp [other]
  | saves stat =>
      refine iff_of_true (fun editing => by cases editing) fun turned => ?_
      cases stat.symm.trans turned.1
  | cancels stat =>
      refine iff_of_true (fun editing => by cases editing) fun turned => ?_
      cases stat.symm.trans turned.1
  | waits stat other =>
      refine iff_of_true text fun turned => ?_
      cases stat.symm.trans turned.1

theorem page_text {focus : Option Bool} {isShow : Bool} {screen : BoxScreen}
    (good : TextSession session) : TextSession (session.page focus isShow screen) where
  config := good.config
  finite := good.finite
  text := by
    intro editing
    have before : session.box.editing = true := by
      cases focus with
      | none => exact editing
      | some focused => cases focused <;> cases editing
    have text := good.text before
    exact ⟨text.cursor, text.length, text.alphabet⟩

theorem boxStep_text_iff {event : BoxEvent} {after : BoxSession} (good : TextSession session)
    (stepped : boxStep clib font session event = some after) :
    (KeepsText session event after ↔ ¬ (StepsOff session event ∨ TurnsSign session event)) ∧
      (KeepsText session event after → TextSession after) := by
  cases event with
  | page focus isShow screen =>
      cases Option.some.inj stepped
      have kept : TextSession (session.page focus isShow screen) := page_text good
      refine ⟨iff_of_true kept.text ?_, fun _ => kept⟩
      rintro (⟨uninit, same, _⟩ | ⟨msg, uninit, same, _⟩)
      · cases same
      · cases same
  | call msg uninit =>
      cases Option.some.inj stepped
      have edited := session.box.edited clib msg uninit
      have turned : StepsOff session (.call msg uninit) ∨ TurnsSign session (.call msg uninit) ↔
          (session.box.boxStat = .modifing ∧
            ((msg = .downOk ∧ session.box.setIndex + 1 = session.box.boxWidth ∧
                session.box.boxWidth < session.box.dataWidth) ∨
              (session.box.setBuf session.box.setIndex = 0x2D ∧
                (msg = .downDown ∨ (msg = .downUp ∧ session.box.dataType = .integer))))) := by
        constructor
        · rintro (⟨_, same, stat, last, wider⟩ | ⟨_, _, same, stat, sign, key⟩)
          · cases same
            exact ⟨stat, .inl ⟨rfl, last, wider⟩⟩
          · cases same
            exact ⟨stat, .inr ⟨sign, key⟩⟩
        · rintro ⟨stat, ⟨rfl, last, wider⟩ | ⟨sign, key⟩⟩
          · exact .inl ⟨uninit, rfl, stat, last, wider⟩
          · exact .inr ⟨msg, uninit, rfl, stat, sign, key⟩
      refine ⟨(edited.text_iff good.config good.finite good.text).trans (not_congr turned.symm), ?_⟩
      intro kept
      refine ⟨?_, edited.finite good.config good.finite ∘ fun type => ?_, kept⟩
      · exact edited.config ▸ good.config
      · exact congrArg BoxConfig.dataType edited.config ▸ type

end Steps

theorem NumberBox.decode_of_number {box : NumberBox} {value : Rat}
    (number : box.number = .finite value) (type : box.dataType = .float) :
    ∃ negative magnitude, Binary32.decode box.setFloat = .finite negative magnitude := by
  rw [NumberBox.number, type] at number
  dsimp only [SetData.number] at number
  cases decoded : Binary32.decode box.setFloat with
  | finite negative magnitude => exact ⟨negative, magnitude, rfl⟩
  | infinite negative =>
      rw [decoded] at number
      cases number
  | nan =>
      rw [decoded] at number
      cases number

theorem NumberBox.Between.finite {box : NumberBox} (between : box.Between)
    (type : box.dataType = .float) :
    ∃ negative magnitude, Binary32.decode box.setFloat = .finite negative magnitude := by
  obtain ⟨value, number, _⟩ := between
  exact NumberBox.decode_of_number number type

/-- Text and cursor stay well formed exactly as long as the cursor does not run over more
places than the box has and no `-` is turned. -/
theorem boxes_keepText_iff (clib : Clib) (font : Font) (start : BoxSession)
    (config : start.box.toBoxConfig ∈ pageBoxes) (idle : start.box.editing = false)
    (between : start.box.Between) (events : List BoxEvent) :
    Run.AllSteps (boxStep clib font) KeepsText start events ↔
      Run.AllSteps (boxStep clib font)
        (fun before event _ => ¬ (StepsOff before event ∨ TurnsSign before event)) start events := by
  have always : ∀ event ∈ events, (fun _ : BoxEvent => True) event := fun _ _ => trivial
  have begins : TextSession start := ⟨config, between.finite, fun editing => by
    cases idle.symm.trans editing⟩
  refine Run.allSteps_iff_of_labels ?_ ?_ always begins
  · intro session event after good _ stepped
    exact (boxStep_text_iff good stepped).1
  · intro session event after good _ stepped well
    obtain ⟨same, kept⟩ := boxStep_text_iff good stepped
    exact kept (same.mpr well)

section Instance

/-- A library without exponents and hexadecimal digits. -/
def plainClib : Clib where
  sscanf text := scanReal text.length (bytesChars text)
  toUint32 value := BitVec.ofNat 32 (value.num.tdiv value.den).toNat

def blankFont : Font := ⟨fun _ _ => 0, fun _ _ _ _ => 0⟩

def focusedBox (config : BoxConfig) (setFloat : U32) : BoxSession where
  box := ⟨config, false, true, .focused, 0, 0, setFloat, fun _ => 0⟩
  screen := ⟨fun _ => 0, fun _ => 0⟩
  began := fun _ => 0

def keys (pressed : List KeyCode) : List BoxEvent := pressed.map fun msg => .call msg .nan

theorem linearCali_between : (focusedBox (linearCaliBox 0) 0x3F800000).box.Between :=
  ⟨1, by decide +kernel, by decide +kernel, by decide +kernel⟩

/-- The keys that turn `1.00000` into `2.10000` and save it. -/
def typedSave : List KeyCode :=
  [.downOk, .downUp, .downOk, .downOk, .downUp, .downDown, .downUp, .downMenu, .downMenu]

/-- The cursor is neither on the last place nor on a `-`. -/
def Inside (box : NumberBox) : Prop :=
  box.boxStat = .modifing → box.setIndex + 1 ≠ box.boxWidth ∧ box.setBuf box.setIndex ≠ 0x2D

instance (box : NumberBox) : Decidable (Inside box) :=
  inferInstanceAs (Decidable (_ → _))

theorem Inside.steady {session : BoxSession} {event : BoxEvent} (inside : Inside session.box) :
    ¬ (StepsOff session event ∨ TurnsSign session event) := by
  rintro (⟨_, _, stat, last, _⟩ | ⟨_, _, _, stat, sign, _⟩)
  · exact (inside stat).1 last
  · exact (inside stat).2 sign

theorem boxes_keepText_iff_linearCali :
    Run.AllSteps (boxStep plainClib blankFont) KeepsText (focusedBox (linearCaliBox 0) 0x3F800000)
        (keys typedSave) ∧
      (Run.run (boxStep plainClib blankFont) (focusedBox (linearCaliBox 0) 0x3F800000)
        (keys typedSave)).map (fun session => session.box.setFloat) = some 0x40066666 := by
  refine ⟨(boxes_keepText_iff plainClib blankFont (focusedBox (linearCaliBox 0) 0x3F800000)
    (by decide +kernel) rfl linearCali_between (keys typedSave)).mpr ?_, by decide +kernel⟩
  have inside : Run.AllSteps (boxStep plainClib blankFont) (fun before _ _ => Inside before.box)
      (focusedBox (linearCaliBox 0) 0x3F800000) (keys typedSave) := by
    decide +kernel
  exact inside.mono fun _ _ _ _ => Inside.steady

/-- The eighth place of a calibration point is the terminator of its seven characters. -/
theorem linearCali_cursor_on_terminator :
    ¬ ∀ (clib : Clib) (font : Font) (start : BoxSession) (events : List BoxEvent),
      start.box.toBoxConfig ∈ pageBoxes → start.box.editing = false → start.box.Between →
        Run.AllSteps (boxStep clib font) KeepsText start events := by
  intro always
  have all := always plainClib blankFont (focusedBox (linearCaliBox 0) 0x3F800000)
    (keys (List.replicate 7 .downOk) ++ keys [.downOk]) (by decide +kernel) rfl linearCali_between
  have off : (Run.run (boxStep plainClib blankFont) (focusedBox (linearCaliBox 0) 0x3F800000)
      (keys (List.replicate 7 .downOk) ++ keys [.downOk])).map (fun session =>
        (session.box.editing, decide (session.box.setIndex < session.box.text.length))) =
          some (true, false) := by
    decide +kernel
  obtain ⟨final, ran, found⟩ := Option.map_eq_some_iff.mp off
  obtain ⟨editing, behind⟩ := Prod.mk.inj found
  obtain ⟨before, began, stepped⟩ := Run.run_concat_some ran
  exact of_decide_eq_false behind (all.last began stepped editing).cursor

end Instance

end ZhuoduControl.Menu.Box
